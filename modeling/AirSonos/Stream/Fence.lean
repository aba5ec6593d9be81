import AirSonos.Bridge.Coherence
import AirSonos.Stream.Request

/-!
# Stream URLs are fenced by their generation

HTTP requests are served beside the runtime. A request looks its stream up at any moment,
also while a handler is under way, and attaches to it later. Whatever happens in between, a
request for a stream URL reaches the one stream that was created for the URL or none.
-/

namespace AirSonos

open BridgeRuntime Relation

variable {env : Env} {guard : BridgeRuntime → BridgeLabel → Prop}

/-! ### The streams that were created -/

/-- The URL of the stream names its session and its generation. -/
def LiveStream.Named (stream : LiveStream) : Prop :=
  stream.session.localUrl.sessionId = stream.session.sessionId ∧
    stream.session.localUrl.generation = stream.session.generation

theorem named_of_created {st : BridgeRuntime} {id : SessionId} {zoneId : ZoneId}
    {generation : Nat} {liveStream : LiveStream}
    (h : st.createDownstreamStream env id zoneId generation = some liveStream) :
    liveStream.Named := by
  unfold createDownstreamStream at h
  split at h
  · cases h
  · split at h
    · cases h
      exact ⟨rfl, rfl⟩
    · cases h

theorem Inner.streams {stack stack' : List Frame} {st st' : BridgeRuntime}
    (h : Inner env stack st stack' st') :
    st'.streams = st.streams ∨ ∃ stream, stream.Named ∧ st'.streams = stream :: st.streams := by
  cases h with
  | built live renderer_eq created => exact .inr ⟨_, named_of_created created, rfl⟩
  | cohortReleased => exact .inl (Sound.streams_openPlay _)
  | streamStarted => exact .inl (Sound.streams_startStream _ _ _ _ _)
  | _ => exact .inl rfl

theorem Move.streams {stack stack' : List Frame} {st st' : BridgeRuntime}
    (h : Move env guard stack st stack' st') :
    st'.streams = st.streams ∨ ∃ stream, stream.Named ∧ st'.streams = stream :: st.streams := by
  cases h with
  | inner move => exact move.streams
  | workerReplied =>
    obtain ⟨groupJoins, heq⟩ := deliver_eq (st.setWorker _ _) _
    rw [heq]
    exact .inl rfl
  | @groupReleased _ zoneId worker stream joins delay since _ found waiting released =>
    unfold releaseGroup at released
    split at released
    · cases released
      cases delay <;> exact .inl rfl
    · cases released
  | encoderClosed =>
    unfold BridgeRuntime.encoderInputClosed
    split <;> exact .inl rfl
  | startSucceeded =>
    unfold BridgeRuntime.startSucceeded
    split <;> exact .inl rfl
  | startRetried =>
    unfold BridgeRuntime.startUncertain
    split <;> exact .inl rfl
  | startExhausted =>
    unfold BridgeRuntime.startUncertain
    split <;> exact .inl rfl
  | retryReplayed =>
    unfold BridgeRuntime.replayPrepared planStream
    split <;> exact .inl rfl
  | preparedPlayed => exact .inl (Sound.streams_openPlay _)
  | _ => exact .inl rfl

theorem Move.streams_subset {stack stack' : List Frame} {st st' : BridgeRuntime}
    (h : Move env guard stack st stack' st') : st.streams ⊆ st'.streams := by
  obtain heq | ⟨stream, -, heq⟩ := h.streams
  · rw [heq]
    exact List.Subset.refl _
  · rw [heq]
    exact List.subset_cons_self _ _

theorem Visited.named {stack : List Frame} {st : BridgeRuntime} (h : Visited env guard stack st) :
    ∀ stream ∈ st.streams, stream.Named := by
  refine h.invariant (P := fun _ st => ∀ stream ∈ st.streams, stream.Named) ?_ ?_
  · intro stream hmem
    cases hmem
  · intro stack st stack' st' _ named move stream hmem
    obtain heq | ⟨created, hcreated, heq⟩ := move.streams
    · rw [heq] at hmem
      exact named stream hmem
    · rw [heq] at hmem
      obtain rfl | hold := List.mem_cons.mp hmem
      · exact hcreated
      · exact named stream hold

/-- What the registry holds under a session is a stream of that session. -/
theorem Coherent.stream_of_registry {stack : List Frame} {st : BridgeRuntime}
    (h : Coherent env stack st) {id : SessionId} {stream : LiveStream}
    (found : st.registry.lookup id = some stream) :
    stream ∈ st.streams ∧ stream.session.sessionId = id := by
  rw [h.stream] at found
  obtain ⟨encoder, hencoder, rfl⟩ := Option.map_eq_some_iff.mp found
  obtain ⟨session, live, hsession⟩ := Option.bind_eq_some_iff.mp hencoder
  exact (h.session id session live).registered encoder hsession

/-! ### The server -/

/-- The runtime, in the middle of a handler or between two, and the HTTP requests that have
looked their stream up and those whose bodies are attached to it. -/
structure StreamServer where
  stack : List Frame
  runtime : BridgeRuntime
  admitted : List (HttpRequest × LiveStream)
  bodies : List (HttpRequest × LiveStream)

def StreamServer.new : StreamServer := ⟨[], .new, [], []⟩

/-- What a request may find in the registry: a handler may already have taken a stream out
that it is about to replace or has yet to account for. -/
def StreamServer.Sees (server : StreamServer) (get : SessionId → Option LiveStream) : Prop :=
  ∀ id stream, get id = some stream → server.runtime.registry.lookup id = some stream

inductive ServerStep (env : Env) (format : UuidFormat) : StreamServer → StreamServer → Prop
  | move {server stack runtime}
      (move : Move env (fun _ _ => True) server.stack server.runtime stack runtime) :
      ServerStep env format server { server with stack := stack, runtime := runtime }
  | accept {server get request stream} (sees : server.Sees get)
      (found : streamSession format get request = .ok stream) :
      ServerStep env format server { server with admitted := (request, stream) :: server.admitted }
  | attach {server request stream} (waiting : (request, stream) ∈ server.admitted) :
      ServerStep env format server
        { server with
          admitted := server.admitted.erase (request, stream)
          bodies := (request, stream) :: server.bodies }
  | detach {server request stream} (attached : (request, stream) ∈ server.bodies) :
      ServerStep env format server
        { server with bodies := server.bodies.erase (request, stream) }

def StreamServer.Reached (env : Env) (format : UuidFormat) (server : StreamServer) : Prop :=
  ReflTransGen (ServerStep env format) .new server

/-- The stream was created for the URL and for no other. -/
structure LiveStream.CreatedFor (streams : List LiveStream) (url : StreamUrl)
    (stream : LiveStream) : Prop where
  created : stream ∈ streams
  sessionId : stream.session.sessionId = url.sessionId
  generation : stream.session.generation = url.generation
  only : ∀ other ∈ streams, other.session.generation = url.generation → other = stream

namespace StreamServer

variable {format : UuidFormat} {server : StreamServer}

theorem Reached.visited (h : server.Reached env format) :
    Visited env (fun _ _ => True) server.stack server.runtime := by
  induction h with
  | refl => exact .refl
  | tail _ step ih =>
    cases step with
    | move move => exact ReflTransGen.tail ih move
    | accept => exact ih
    | attach => exact ih
    | detach => exact ih

theorem Reached.of_visited {stack : List Frame} {st : BridgeRuntime}
    (h : Visited env (fun _ _ => True) stack st) :
    Reached env format ⟨stack, st, [], []⟩ := by
  have hpair (a : List Frame × BridgeRuntime) (ha : Chain env (fun _ _ => True) ([], .new) a) :
      Reached env format ⟨a.1, a.2, [], []⟩ := by
    induction ha with
    | refl => exact .refl
    | tail _ move ih => exact ReflTransGen.tail ih (.move move)
  exact hpair (stack, st) h

/-- A request that is admitted has found a stream of the session and generation it asks for. -/
theorem Sees.answers {get : SessionId → Option LiveStream} (sees : server.Sees get)
    (coherent : Coherent env server.stack server.runtime) {url : StreamUrl}
    (parses : format.parse (format.print url.sessionId) = some url.sessionId)
    (bounded : url.generation < U64_BOUND) {stream : LiveStream}
    (found : streamSession format get (url.request format) = .ok stream) :
    stream ∈ server.runtime.streams ∧ stream.session.sessionId = url.sessionId ∧
      stream.session.generation = url.generation := by
  rw [streamSession_request parses bounded] at found
  split at found
  · cases found
  · next held hheld =>
    split at found
    · cases found
    · next same =>
      cases found
      obtain ⟨hmem, hid⟩ := coherent.stream_of_registry (sees _ _ hheld)
      exact ⟨hmem, hid, (not_not.mp same).symm⟩

/-- What the server has taken on. -/
def requests (server : StreamServer) : List (HttpRequest × LiveStream) :=
  server.admitted ++ server.bodies

theorem Reached.served (h : server.Reached env format) {url : StreamUrl}
    (parses : format.parse (format.print url.sessionId) = some url.sessionId)
    (bounded : url.generation < U64_BOUND) {stream : LiveStream}
    (hmem : (url.request format, stream) ∈ server.requests) :
    stream ∈ server.runtime.streams ∧ stream.session.sessionId = url.sessionId ∧
      stream.session.generation = url.generation := by
  induction h with
  | refl => cases hmem
  | @tail before after reached step ih =>
    cases step with
    | move move =>
      obtain ⟨hstream, hnames⟩ := ih hmem
      exact ⟨move.streams_subset hstream, hnames⟩
    | @accept get request found sees hfound =>
      obtain heq | hold := List.mem_cons.mp hmem
      · cases heq
        exact sees.answers (Reached.visited reached).coherent parses bounded hfound
      · exact ih hold
    | @attach request attached waiting =>
      apply ih
      obtain hadmitted | hbody := List.mem_append.mp hmem
      · exact List.mem_append_left _ (List.mem_of_mem_erase hadmitted)
      · obtain heq | hbody := List.mem_cons.mp hbody
        · rw [heq]
          exact List.mem_append_left _ waiting
        · exact List.mem_append_right _ hbody
    | detach =>
      apply ih
      obtain hadmitted | hbody := List.mem_append.mp hmem
      · exact List.mem_append_left _ hadmitted
      · exact List.mem_append_right _ (List.mem_of_mem_erase hbody)

end StreamServer

/-- At every moment of every run, a request for a stream URL that is being served is served
from the one stream with the generation of the URL, which is a stream of its session. A new
request for the URL of a stream that the registry does not hold any more is answered 404. -/
theorem fenced_by_generation (env : Env) (format : UuidFormat) (server : StreamServer)
    (h : server.Reached env format) (url : StreamUrl)
    (parses : format.parse (format.print url.sessionId) = some url.sessionId)
    (bounded : url.generation < U64_BOUND) :
    (∀ stream, (url.request format, stream) ∈ server.admitted ++ server.bodies →
      stream.CreatedFor server.runtime.streams url) ∧
    ∀ get, server.Sees get →
      (∀ stream, streamSession format get (url.request format) = .ok stream →
        stream.CreatedFor server.runtime.streams url ∧ get url.sessionId = some stream) ∧
      ∀ stream ∈ server.runtime.streams, stream.session.localUrl = url →
        streamSession format get (url.request format) =
          if get url.sessionId = some stream then .ok stream else .error .notFound := by
  have coherent := h.visited.coherent
  have hcreated (stream : LiveStream) (hnames : stream ∈ server.runtime.streams ∧
      stream.session.sessionId = url.sessionId ∧ stream.session.generation = url.generation) :
      stream.CreatedFor server.runtime.streams url := by
    obtain ⟨hmem, hid, hgeneration⟩ := hnames
    refine ⟨hmem, hid, hgeneration, fun other hother hsame => ?_⟩
    exact coherent.eq_of_generation hother hmem (hsame.trans hgeneration.symm)
  constructor
  · intro stream hmem
    exact hcreated stream (h.served parses bounded hmem)
  · intro get sees
    constructor
    · intro stream found
      refine ⟨hcreated stream (sees.answers coherent parses bounded found), ?_⟩
      rw [streamSession_request parses bounded] at found
      split at found
      · cases found
      · next held hheld =>
        split at found
        · cases found
        · cases found
          exact hheld
    · rintro stream hmem rfl
      obtain ⟨hid, hgeneration⟩ := h.visited.named stream hmem
      rw [streamSession_request parses bounded]
      cases hheld : get stream.session.localUrl.sessionId with
      | none => rfl
      | some held =>
        have hheldMem := (coherent.stream_of_registry (sees _ _ hheld)).1
        by_cases hsame : held = stream
        · subst hsame
          simp [hgeneration]
        · have hother : stream.session.generation ≠ held.session.generation := fun heq =>
            hsame (coherent.eq_of_generation hmem hheldMem heq).symm
          simp [hgeneration, hother, hsame]

namespace Household

/-- The nil UUID as the `uuid` crate prints it. -/
def nilUuid : List Char :=
  List.replicate 8 '0' ++ '-' :: List.replicate 4 '0' ++ '-' :: List.replicate 4 '0' ++
    '-' :: List.replicate 4 '0' ++ '-' :: List.replicate 12 '0'

def uuids : UuidFormat where
  print _ := nilUuid
  parse text := if text = nilUuid then some ⟨0⟩ else none

end Household

/-- The theorem at the first stream of the Kitchen. -/
theorem fenced_in_kitchen :
    ∃ st stream, (bridge Household.env).run .new [Household.started 0 1] = some st ∧
      streamSession Household.uuids st.registry.lookup
        (stream.session.localUrl.request Household.uuids) = .ok stream ∧
      stream.CreatedFor st.streams stream.session.localUrl := by
  have hruns : (((bridge Household.env).run .new [Household.started 0 1]).bind fun st =>
      (st.registry.lookup ⟨0⟩).map fun stream => stream.session.localUrl) =
        some ⟨⟨1⟩, ⟨0⟩, .wav, 1⟩ := by
    decide +kernel
  obtain ⟨st, hrun, hst⟩ := Option.bind_eq_some_iff.mp hruns
  obtain ⟨stream, hstream, hurl⟩ := Option.map_eq_some_iff.mp hst
  have hvisited : Visited Household.env (fun _ _ => True) [] st :=
    .of_reachable (TransitionSystem.Reachable.of_run .init hrun)
  have hfenced := (fenced_by_generation Household.env Household.uuids ⟨[], st, [], []⟩
    (.of_visited hvisited) ⟨⟨1⟩, ⟨0⟩, .wav, 1⟩ rfl (by decide)).2 st.registry.lookup
      fun _ _ found => found
  have hserved := hfenced.2 stream (hvisited.coherent.stream_of_registry hstream).1 hurl
  rw [if_pos hstream] at hserved
  refine ⟨st, stream, hrun, ?_, ?_⟩
  · rw [hurl]
    exact hserved
  · rw [hurl]
    exact (hfenced.1 stream hserved).1

end AirSonos
