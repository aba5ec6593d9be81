import AirSonos.Bridge.Types
import AirSonos.Lib.Text

/-!
# Stream URLs and the requests for them

The runtime writes a stream URL with the session in the path and the generation in the query.
The HTTP server reads both back from the last path segment and the raw query. How a UUID is
printed and parsed is left to its library.
-/

namespace AirSonos

/-- How the `uuid` crate prints and parses a session id. -/
structure UuidFormat where
  print : SessionId → List Char
  parse : List Char → Option SessionId

inductive StatusCode
  | badRequest
  | notFound
deriving DecidableEq

structure HttpRequest where
  sessionId : List Char
  query : Option (List Char)
deriving DecidableEq

def U64_BOUND : Nat := 2 ^ 64

def StreamCodec.extension : StreamCodec → List Char
  | mp3 => ['m', 'p', '3']
  | aac => ['a', 'a', 'c']
  | wav => ['w', 'a', 'v']

/-- The key of the generation in the query. -/
def GEN : List Char := ['g', 'e', 'n']

/-- The request a renderer makes for the URL: `/streams/<session>.<codec>?gen=<generation>`. -/
def StreamUrl.request (format : UuidFormat) (url : StreamUrl) : HttpRequest where
  sessionId := format.print url.sessionId ++ '.' :: url.codec.extension
  query := some (GEN ++ '=' :: Nat.toDigits 10 url.generation)

def stripExtension (text : List Char) : List Char :=
  (((Text.stripSuffix ('.' :: StreamCodec.mp3.extension) text).or
    (Text.stripSuffix ('.' :: StreamCodec.wav.extension) text)).or
      (Text.stripSuffix ('.' :: StreamCodec.aac.extension) text)).getD text

def firstGeneration : List (List Char) → Except StatusCode (Option Nat)
  | [] => .ok none
  | pair :: rest =>
    match Text.splitOnce '=' pair with
    | none => firstGeneration rest
    | some (key, value) =>
      if key = GEN then
        match Text.parseUnsigned U64_BOUND value with
        | some generation => .ok (some generation)
        | none => .error .badRequest
      else firstGeneration rest

def streamGeneration : Option (List Char) → Except StatusCode (Option Nat)
  | none => .ok none
  | some query => firstGeneration (query.splitOn '&')

/-- `stream_session` up to the attachment. `get` is what the registry holds at that moment. -/
def streamSession (format : UuidFormat) (get : SessionId → Option LiveStream)
    (request : HttpRequest) : Except StatusCode LiveStream :=
  match format.parse (stripExtension request.sessionId) with
  | none => .error .badRequest
  | some id =>
    match get id with
    | none => .error .notFound
    | some stream =>
      match streamGeneration request.query with
      | .error status => .error status
      | .ok none => .ok stream
      | .ok (some generation) =>
        if generation ≠ stream.session.generation then .error .notFound else .ok stream

theorem stripExtension_append (text : List Char) (codec : StreamCodec) :
    stripExtension (text ++ '.' :: codec.extension) = text := by
  have hmiss (other : StreamCodec) (hne : other.extension ≠ codec.extension) :
      Text.stripSuffix ('.' :: other.extension) (text ++ '.' :: codec.extension) = none := by
    refine Text.stripSuffix_append_of_ne text ?_ fun heq => hne (List.cons.inj heq).2
    cases other <;> cases codec <;> rfl
  have hhit := Text.stripSuffix_append text ('.' :: codec.extension)
  unfold stripExtension
  cases codec with
  | mp3 =>
    rw [hhit]
    rfl
  | wav =>
    rw [hmiss .mp3 (by decide), hhit]
    rfl
  | aac =>
    rw [hmiss .mp3 (by decide), hmiss .wav (by decide), hhit]
    rfl

theorem streamGeneration_request {generation : Nat} (h : generation < U64_BOUND) :
    streamGeneration (some (GEN ++ '=' :: Nat.toDigits 10 generation)) = .ok (some generation) := by
  have hsingle : (GEN ++ '=' :: Nat.toDigits 10 generation).splitOn '&' =
      [GEN ++ '=' :: Nat.toDigits 10 generation] := by
    apply List.splitOn_eq_singleton
    rw [List.mem_append, List.mem_cons, not_or, not_or]
    exact ⟨by decide, by decide, Text.not_mem_toDigits (by decide)⟩
  have hpair : Text.splitOnce '=' (GEN ++ '=' :: Nat.toDigits 10 generation) =
      some (GEN, Nat.toDigits 10 generation) :=
    Text.splitOnce_append '=' _ (by decide)
  simp only [streamGeneration, hsingle, firstGeneration, hpair, if_true,
    Text.parseUnsigned_toDigits h]

/-- The server reads from a stream URL what the runtime wrote into it: it looks the session up
and compares the generation. -/
theorem streamSession_request {format : UuidFormat} {url : StreamUrl}
    (parses : format.parse (format.print url.sessionId) = some url.sessionId)
    (bounded : url.generation < U64_BOUND) (get : SessionId → Option LiveStream) :
    streamSession format get (url.request format) =
      match get url.sessionId with
      | none => .error .notFound
      | some stream =>
        if url.generation ≠ stream.session.generation then .error .notFound else .ok stream := by
  simp only [streamSession, StreamUrl.request, stripExtension_append, parses,
    streamGeneration_request bounded]

end AirSonos
