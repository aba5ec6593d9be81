import AirSonos.Rtsp.Connection

/-!
# The requests of the stream are served

However the network cuts the stream, and wherever the cipher is switched on, the requests that
reach the handler are those of the whole plaintext, each once and in order.
-/

namespace AirSonos.Rtsp

open Incremental

variable {σ : Type*} {env : ConnectionEnv σ} {c after : Connection σ}

namespace Connection

@[simp] theorem write_request (c : Connection σ) (response : HttpResponse) :
    (c.write env response).request = c.request := by
  rw [write]
  split <;> rfl

@[simp] theorem write_plain (c : Connection σ) (response : HttpResponse) :
    (c.write env response).plain = c.plain := by
  rw [write]
  split <;> rfl

@[simp] theorem write_handled (c : Connection σ) (response : HttpResponse) :
    (c.write env response).handled = c.handled := by
  rw [write]
  split <;> rfl

@[simp] theorem write_status (c : Connection σ) (response : HttpResponse) :
    (c.write env response).status = c.status := by
  rw [write]
  split <;> rfl

@[simp] theorem delivered_request (c : Connection σ) : (c.delivered env).request = c.request :=
  rfl

@[simp] theorem delivered_plain (c : Connection σ) : (c.delivered env).plain = c.plain :=
  rfl

@[simp] theorem delivered_handled (c : Connection σ) : (c.delivered env).handled = c.handled :=
  rfl

@[simp] theorem delivered_status (c : Connection σ) : (c.delivered env).status = c.status :=
  rfl

variable (env) in
/-- The parser takes the data, or the connection is closed over it. -/
theorem feed_cases (c : Connection σ) (data : List UInt8) :
    (∃ request, c.request.addData env.toParserEnv data = (request, .ok ()) ∧
      c.feed env data = { c with request := request }) ∨
    ∃ request error, c.request.addData env.toParserEnv data = (request, .error error) ∧
      c.feed env data =
        ({ c with request := request }.write env HttpResponse.badRequest).close .badRequest := by
  rw [feed]
  split
  · rename_i request hfed
    exact .inl ⟨request, hfed, rfl⟩
  · rename_i request error hrefused
    exact .inr ⟨request, error, hrefused, rfl⟩

end Connection

/-- The handled requests were read off the plaintext, and the parser holds the bytes behind
them, or it has refused them. -/
def Served (env : ConnectionEnv σ) (c : Connection σ) : Prop :=
  ∃ data, Reads (nextRequest env.toParserEnv) () c.plain c.handled () data ∧
    (c.status = .serving → Fed env.toParserEnv c.request data) ∧
    (c.status = .closed .badRequest → Refused env.toParserEnv data)

namespace Served

theorem closed (h : Served env c) (plain : after.plain = c.plain)
    (handled : after.handled = c.handled) {closing : Closing} (closed : after.status = .closed closing)
    (other : closing ≠ .badRequest) : Served env after := by
  obtain ⟨data, hreads, -⟩ := h
  refine ⟨data, ?_, fun hserving => ?_, fun hrefused => ?_⟩
  · rw [plain, handled]
    exact hreads
  · rw [closed] at hserving
    cases hserving
  · rw [closed] at hrefused
    cases hrefused
    exact absurd rfl other

/-- `fed` arrives behind the bytes that the parser holds already. -/
theorem feed (lawful : Lawful env.httparse) {before fed : List UInt8}
    (reads : Reads (nextRequest env.toParserEnv) () c.plain c.handled () (before ++ fed))
    (held : Fed env.toParserEnv c.request before) (waits : c.request.complete = false)
    (serving : c.status = .serving) : Served env (c.feed env fed) := by
  obtain ⟨request, hfed, heq⟩ | ⟨request, error, hrefused, heq⟩ := c.feed_cases env fed
  · rw [heq]
    refine ⟨before ++ fed, reads, fun _ => held.addData lawful waits hfed, ?_⟩
    rw [serving]
    rintro ⟨⟩
  · rw [heq]
    refine ⟨before ++ fed, ?_, by rintro ⟨⟩, fun _ => held.refused hrefused⟩
    simpa [Connection.close] using reads

theorem readClear (lawful : Lawful env.httparse) (h : Served env c)
    (serving : c.status = .serving) (waits : c.request.complete = false) (bytes : List UInt8) :
    Served env (c.readClear env bytes) := by
  obtain ⟨data, hreads, hheld, -⟩ := h
  exact feed lawful (hreads.extend (nextRequest_stable lawful) bytes) (hheld serving) waits serving

theorem readSealed (lawful : Lawful env.httparse) (h : Served env c)
    (serving : c.status = .serving) (waits : c.request.complete = false) (bytes : List UInt8) :
    Served env (c.readSealed env bytes) := by
  rw [Connection.readSealed]
  split
  · exact h.closed rfl rfl rfl (by rintro ⟨⟩)
  · split
    · exact h.closed rfl rfl rfl (by rintro ⟨⟩)
    · rename_i plain consumed handler _
      obtain ⟨data, hreads, hheld, hrefused⟩ := h
      split
      · rename_i hnothing
        rw [List.isEmpty_iff.mp hnothing]
        refine ⟨data, ?_, hheld, hrefused⟩
        simpa using hreads
      · exact feed lawful (hreads.extend (nextRequest_stable lawful) plain) (hheld serving) waits
          serving

/-- The complete request is handled; what arrived behind it goes to a new parser. -/
theorem respond (lawful : Lawful env.httparse) (h : Served env c)
    (serving : c.status = .serving) (done : c.request.complete = true) (delivered : Bool) :
    Served env (c.respond env delivered) := by
  obtain ⟨data, hreads, hheld, -⟩ := h
  obtain ⟨used, houtput, hleftover⟩ := (hheld serving).output lawful done
  have hhandled : Reads (nextRequest env.toParserEnv) () c.plain (c.handled ++ [c.request.view]) ()
      c.request.takeLeftover := by
    rw [hleftover]
    exact hreads.trans (.output houtput (.stop () _))
  cases delivered with
  | false =>
    refine ⟨c.request.takeLeftover, ?_, by rintro ⟨⟩, by rintro ⟨⟩⟩
    simpa [Connection.respond, Connection.close] using hhandled
  | true =>
    simp only [Connection.respond, if_true, Connection.advance]
    split
    · refine ⟨c.request.takeLeftover, ?_, by rintro ⟨⟩, by rintro ⟨⟩⟩
      simpa [Connection.close] using hhandled
    · simp only [Connection.delivered_request, Connection.write_request]
      split
      · rename_i hnothing
        refine ⟨[], ?_, fun _ => Fed.new lawful, ?_⟩
        · rw [List.isEmpty_iff.mp hnothing] at hhandled
          simpa using hhandled
        · simp [serving]
      · refine feed lawful ?_ (Fed.new lawful) rfl ?_
        · simpa using hhandled
        · simpa using serving

theorem init (lawful : Lawful env.httparse) (conn : σ) : Served env (.init conn) :=
  ⟨[], .stop () [], fun _ => Fed.new lawful, by rintro ⟨⟩⟩

theorem step (lawful : Lawful env.httparse) (h : Served env c) {label : ConnectionLabel}
    (taken : c.step env label = some after) : Served env after := by
  cases label with
  | read bytes =>
    simp only [Connection.step] at taken
    split at taken
    · rename_i hguard
      obtain ⟨serving, waits, -⟩ := hguard
      cases taken
      split
      · exact h.readSealed lawful serving waits bytes
      · exact h.readClear lawful serving waits bytes
    · cases taken
  | respond delivered =>
    simp only [Connection.step] at taken
    split at taken
    · rename_i hguard
      cases taken
      exact h.respond lawful hguard.1 hguard.2 delivered
    · cases taken
  | eof =>
    simp only [Connection.step] at taken
    split at taken
    · cases taken
      exact h.closed rfl rfl rfl (by rintro ⟨⟩)
    · cases taken
  | shutdown =>
    simp only [Connection.step] at taken
    split at taken
    · cases taken
      exact h.closed rfl rfl rfl (by rintro ⟨⟩)
    · cases taken

theorem of_reachable (lawful : Lawful env.httparse) {conn : σ}
    (h : (connectionSystem env conn).Reachable c) : Served env c :=
  h.invariant (init lawful conn) fun _ _ _ hserved taken => hserved.step lawful taken

end Served

namespace Handset

def BLANK_LINE : List UInt8 := [13, 10, 13, 10]

/-- Where the blank line behind the head ends. -/
def headEnd : List UInt8 → Option ℕ
  | [] => none
  | byte :: bytes =>
    if BLANK_LINE.isPrefixOf (byte :: bytes) then some 4 else (headEnd bytes).map (· + 1)

def text (bytes : List UInt8) : String :=
  String.ofList (bytes.map fun byte => Char.ofNat byte.toNat)

/-- A protocol that is known, or may still become one that is. -/
def version (word : List UInt8) : Bool :=
  [utf8 "HTTP/1.0", utf8 "HTTP/1.1"].any fun known =>
    known.isPrefixOf word || word.isPrefixOf known

/-- A head of one line: the method, the path and the protocol. -/
def httparse (buffer : List UInt8) : Parsed :=
  let words := (buffer.take ((headEnd buffer).getD buffer.length)).splitOn 32
  if words[2]?.all version then
    match headEnd buffer with
    | none => .incomplete
    | some n => .complete n (words[0]?.map text) (words[1]?.map text) []
  else .failed "invalid HTTP version"

/-- What the secret of the pairing gives for a controller's requests and for the responses. -/
def writeKey : Key :=
  ⟨#[0x05, 0xed, 0xa2, 0xe7, 0x36, 0x8f, 0x1e, 0x69, 0x3d, 0x3d, 0x7c, 0x8a, 0x82, 0x6c, 0x87, 0x7b,
    0xa9, 0xe2, 0xc3, 0x41, 0xed, 0x1f, 0x95, 0xe1, 0xf9, 0x6e, 0xe5, 0x2f, 0x8b, 0x67, 0x73, 0x3e], rfl⟩

def readKey : Key :=
  ⟨#[0x5e, 0x65, 0xd1, 0x66, 0x90, 0xfd, 0x00, 0x82, 0x6a, 0xac, 0x8f, 0x59, 0x9b, 0xac, 0x11, 0x7e,
    0x26, 0xe8, 0x74, 0xb3, 0x09, 0x03, 0x77, 0xda, 0x5d, 0x2b, 0x39, 0xed, 0x3c, 0xef, 0xf8, 0x00], rfl⟩

/-- `OPTIONS * RTSP/1.0` -/
def options : List UInt8 :=
  [79, 80, 84, 73, 79, 78, 83, 32, 42, 32, 82, 84, 83, 80, 47, 49, 46, 48, 13, 10, 13, 10]

/-- `RTSP/1.0 200 OK` -/
def ok : List UInt8 :=
  [82, 84, 83, 80, 47, 49, 46, 48, 32, 50, 48, 48, 32, 79, 75, 13, 10, 13, 10]

/-- The ciphertexts of the first block under either key. -/
def optionsSealed : List UInt8 :=
  [0x10, 0x9f, 0xd2, 0xc1, 0x02, 0x01, 0x14, 0xf4, 0xe6, 0x7d, 0x0c, 0x68, 0xa7, 0x98, 0x6e, 0x1f,
    0x82, 0x05, 0x60, 0xa7, 0x64, 0x2f, 0x45, 0x92, 0x6f, 0x42, 0x42, 0x2a, 0xce, 0x51, 0xa4, 0x62,
    0x16, 0x0b, 0x0a, 0x10, 0x91, 0x3d]

def okSealed : List UInt8 :=
  [0xc6, 0x57, 0x1d, 0xa3, 0x4f, 0x01, 0x86, 0xcd, 0xf1, 0xdd, 0xaf, 0xc4, 0x22, 0x2a, 0xd8, 0x5c,
    0x61, 0x64, 0x46, 0x81, 0x28, 0x20, 0x07, 0xac, 0x17, 0xbe, 0xdf, 0x17, 0x4c, 0xe9, 0xae, 0x1f,
    0xc2, 0x84, 0x3b]

/-- The first message under a key, and its ciphertext. -/
def first (key : Key) : Option (List UInt8 × List UInt8) :=
  if key = writeKey then some (options, optionsSealed)
  else if key = readKey then some (ok, okSealed)
  else none

/-- The cipher leaves a message as it is, but for the two whose ciphertexts are known. -/
def aead : Aead where
  encrypt key nonce msg _ :=
    if nonce = (CipherContext.new key).nonce ∧ (first key).map Prod.fst = some msg then
      (first key).map Prod.snd
    else some (msg ++ List.replicate TAG_LEN 0)
  decrypt key nonce msg _ :=
    if nonce = (CipherContext.new key).nonce ∧ (first key).map Prod.snd = some msg then
      (first key).map Prod.fst
    else some (msg.take (msg.length - TAG_LEN))

theorem first_cases {key : Key} {msg ciphertext : List UInt8}
    (h : first key = some (msg, ciphertext)) :
    ciphertext.length = msg.length + TAG_LEN ∧ ciphertext.getLast? ≠ some 0 := by
  unfold first at h
  split at h
  · cases h
    decide
  · split at h
    · cases h
      decide
    · cases h

theorem ne_of_first {key : Key} {msg ciphertext : List UInt8}
    (h : first key = some (msg, ciphertext)) (other : List UInt8) :
    ciphertext ≠ other ++ List.replicate TAG_LEN 0 := by
  rintro rfl
  refine (first_cases h).2 ?_
  rw [List.getLast?_append]
  rfl

theorem aead_lawful : aead.Lawful where
  seals key nonce msg aad hle := by
    by_cases hknown : nonce = (CipherContext.new key).nonce ∧ (first key).map Prod.fst = some msg
    · obtain ⟨hnonce, hfirst⟩ := hknown
      obtain ⟨⟨_, ciphertext⟩, hentry, rfl⟩ := Option.map_eq_some_iff.mp hfirst
      refine ⟨ciphertext, ?_, (first_cases hentry).1, ?_⟩
      · simp only [aead, hentry, Option.map_some, hnonce, and_self, if_true]
      · simp only [aead, hentry, Option.map_some, hnonce, and_self, if_true]
    · refine ⟨msg ++ List.replicate TAG_LEN 0, if_neg hknown, ?_, ?_⟩
      · rw [List.length_append, List.length_replicate]
      · have hother : ¬(nonce = (CipherContext.new key).nonce ∧
            (first key).map Prod.snd = some (msg ++ List.replicate TAG_LEN 0)) := by
          rintro ⟨-, hfirst⟩
          obtain ⟨⟨_, _⟩, hentry, rfl⟩ := Option.map_eq_some_iff.mp hfirst
          exact ne_of_first hentry msg rfl
        refine (if_neg hother).trans ?_
        rw [List.length_append, List.length_replicate, Nat.add_sub_cancel, List.take_left]

/-- The pairing is complete after the first request to `/pair-verify`. -/
def rtspEnv : ConnectionEnv Bool where
  httparse := httparse
  fromUtf8Lossy := text
  aead := aead
  hkdf _ _ info := some (if info = "Control-Write-Encryption-Key" then writeKey else readKey)
  dispatch paired request :=
    ((HttpResponse.new "RTSP/1.0" 200 "OK").finish none,
      paired || request.url = some "/pair-verify")
  ap2SharedSecret paired := if paired then some (List.replicate 32 1) else none

/-- `POST /pair-verify RTSP/1.0` -/
def pairVerify : List UInt8 :=
  [80, 79, 83, 84, 32, 47, 112, 97, 105, 114, 45, 118, 101, 114, 105, 102, 121, 32, 82, 84, 83, 80,
    47, 49, 46, 48, 13, 10, 13, 10]

/-- The pairing switches the cipher on, and an encrypted request arrives in two pieces. -/
def pairs : List ConnectionLabel :=
  [.read pairVerify, .respond true, .read (22 :: 0 :: optionsSealed.take 3),
    .read (optionsSealed.drop 3), .respond true]

end Handset

-- a piece that ends inside `RTSP/1.0`
example : ((connectionSystem Handset.rtspEnv false).run (.init false)
    [.read (Handset.options.take 14)]).map (fun c => (c.status, c.handled.length)) =
      some (.closed .badRequest, 0) := by
  decide +kernel

end AirSonos.Rtsp
