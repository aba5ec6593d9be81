import AirSonos.Lib.TransitionSystem
import AirSonos.Rtsp.Requests
import AirSonos.Rtsp.Transport

/-!
# One connection of the RTSP server

The server reads pieces of up to 4 KiB, decrypts them once the connection is sealed, feeds the
parser, and answers every complete request before it reads on. The cipher of a connection is
switched on after the response that agreed on its secret.
-/

namespace AirSonos.Rtsp

open Incremental

def utf8 (text : String) : List UInt8 :=
  text.toUTF8.data.toList

/-- A response begins with its status line, so it is never empty. -/
structure HttpResponse where
  data : List UInt8
  complete : Bool
  disconnect : Bool
  code : UInt16
  started : data ≠ []

namespace HttpResponse

def statusLine (protocol : String) (code : UInt16) (message : String) : List UInt8 :=
  utf8 (protocol ++ " " ++ toString code.toNat ++ " " ++ message) ++ [13, 10]

def new (protocol : String) (code : UInt16) (message : String) : HttpResponse where
  data := statusLine protocol code message
  complete := false
  disconnect := false
  code := code
  started := List.append_ne_nil_of_right_ne_nil _ (List.cons_ne_nil 13 [10])

def addHeader (response : HttpResponse) (name value : String) : HttpResponse :=
  { response with
    data := response.data ++ utf8 name ++ [58, 32] ++ utf8 value ++ [13, 10]
    started := List.append_ne_nil_of_right_ne_nil _ (List.cons_ne_nil 13 [10]) }

def finish (response : HttpResponse) (body : Option (List UInt8)) : HttpResponse :=
  { response with
    data := response.data ++
      match body.filter (!·.isEmpty) with
      | some body =>
        utf8 "Content-Length: " ++ utf8 (toString body.length) ++ [13, 10, 13, 10] ++ body
      | none => [13, 10]
    complete := true
    started := List.append_ne_nil_of_left_ne_nil response.started _ }

def badRequest : HttpResponse :=
  ((new "RTSP/1.0" 400 "Bad Request").addHeader "Connection" "close").finish none

end HttpResponse

structure EncryptedChannel where
  encryptCtx : CipherContext
  decryptCtx : CipherContext

/-- `dispatch` handles a request on the state of the connection, and `ap2SharedSecret` is the
secret that a completed pairing left there. -/
structure ConnectionEnv (σ : Type*) extends ParserEnv where
  aead : Aead
  hkdf : (salt : String) → (sharedSecret : List UInt8) → (info : String) → Option Key
  dispatch : σ → Request → HttpResponse × σ
  ap2SharedSecret : σ → Option (List UInt8)

variable {σ : Type*} (env : ConnectionEnv σ)

namespace EncryptedChannel

def new (sharedSecret : List UInt8) (writeSalt writeInfo readSalt readInfo : String) :
    Option EncryptedChannel := do
  let writeKey ← env.hkdf writeSalt sharedSecret writeInfo
  let readKey ← env.hkdf readSalt sharedSecret readInfo
  return ⟨.new writeKey, .new readKey⟩

def control (sharedSecret : List UInt8) : Option EncryptedChannel :=
  new env sharedSecret "Control-Salt" "Control-Read-Encryption-Key" "Control-Salt"
    "Control-Write-Encryption-Key"

end EncryptedChannel

structure ConnectionHandler (σ : Type*) where
  conn : σ
  cipher : Option EncryptedChannel
  pendingSecret : Option (List UInt8)

namespace ConnectionHandler

def connRequest (handler : ConnectionHandler σ) (request : Request) :
    HttpResponse × ConnectionHandler σ :=
  let (response, conn) := env.dispatch handler.conn request
  let pendingSecret :=
    if handler.cipher.isNone then (env.ap2SharedSecret conn).or handler.pendingSecret
    else handler.pendingSecret
  (response, { handler with conn := conn, pendingSecret := pendingSecret })

def isEncrypted (handler : ConnectionHandler σ) : Bool :=
  handler.cipher.isSome

def afterResponse (handler : ConnectionHandler σ) : ConnectionHandler σ :=
  match handler.cipher, handler.pendingSecret with
  | none, some secret =>
    { handler with pendingSecret := none, cipher := EncryptedChannel.control env secret }
  | _, _ => handler

def decryptIncoming (handler : ConnectionHandler σ) (data : List UInt8) :
    Option (List UInt8 × ℕ) × ConnectionHandler σ :=
  match handler.cipher with
  | none => (some (data, data.length), handler)
  | some channel =>
    let (result, ctx) := channel.decryptCtx.decrypt env.aead data
    (result, { handler with cipher := some { channel with decryptCtx := ctx } })

def encryptOutgoing (handler : ConnectionHandler σ) (data : List UInt8) :
    List UInt8 × ConnectionHandler σ :=
  match handler.cipher with
  | none => (data, handler)
  | some channel =>
    let (result, ctx) := channel.encryptCtx.encrypt env.aead data
    (result.getD data, { handler with cipher := some { channel with encryptCtx := ctx } })

end ConnectionHandler

/-- One `write_all`: the response and the bytes that were handed to the socket. -/
structure Outgoing where
  response : List UInt8
  wire : List UInt8
  encrypted : Bool

inductive Closing
  | eof
  | shutdown
  | writeFailed
  | disconnect
  | badRequest
  | undecryptable
  | overflow
deriving DecidableEq

inductive Status
  | serving
  | closed (closing : Closing)
deriving DecidableEq

/-- The last six fields record what was read and done: the bytes read in the clear, the bytes
read under the cipher, all plaintext that reached the parser, the requests that were handled,
the writes, and the number of writes when the cipher was switched on. -/
structure Connection (σ : Type*) where
  handler : ConnectionHandler σ
  request : HttpRequest
  rawBuf : List UInt8
  status : Status
  clearIn : List UInt8
  sealedIn : List UInt8
  plain : List UInt8
  handled : List Request
  outgoing : List Outgoing
  switchedAt : Option ℕ

def READ_BUFFER : ℕ := 4096
def MAX_ENCRYPTED : ℕ := 1024 * 1024

inductive ConnectionLabel
  | read (bytes : List UInt8)
  | respond (delivered : Bool)
  | eof
  | shutdown

namespace Connection

def init (conn : σ) : Connection σ where
  handler := ⟨conn, none, none⟩
  request := .new
  rawBuf := []
  status := .serving
  clearIn := []
  sealedIn := []
  plain := []
  handled := []
  outgoing := []
  switchedAt := none

def close (c : Connection σ) (closing : Closing) : Connection σ :=
  { c with status := .closed closing }

def write (c : Connection σ) (response : HttpResponse) : Connection σ :=
  if c.handler.isEncrypted then
    let (wire, handler) := c.handler.encryptOutgoing env response.data
    { c with
      handler := handler
      outgoing := c.outgoing ++ [⟨response.data, wire, true⟩] }
  else { c with outgoing := c.outgoing ++ [⟨response.data, response.data, false⟩] }

/-- The parser is fed; a request it cannot read is answered and ends the connection. -/
def feed (c : Connection σ) (data : List UInt8) : Connection σ :=
  match c.request.addData env.toParserEnv data with
  | (request, .ok ()) => { c with request := request }
  | (request, .error _) =>
    ({ c with request := request }.write env HttpResponse.badRequest).close .badRequest

def readClear (c : Connection σ) (bytes : List UInt8) : Connection σ :=
  { c with clearIn := c.clearIn ++ bytes, plain := c.plain ++ bytes }.feed env bytes

def readSealed (c : Connection σ) (bytes : List UInt8) : Connection σ :=
  let rawBuf := c.rawBuf ++ bytes
  let c := { c with rawBuf := rawBuf, sealedIn := c.sealedIn ++ bytes }
  if MAX_ENCRYPTED < rawBuf.length then c.close .overflow
  else
    match c.handler.decryptIncoming env rawBuf with
    | (none, handler) => { c with handler := handler }.close .undecryptable
    | (some (plain, consumed), handler) =>
      let c := { c with
        handler := handler
        rawBuf := rawBuf.drop consumed
        plain := c.plain ++ plain }
      if plain.isEmpty then c else c.feed env plain

/-- A response was delivered. The cipher is switched on if one is agreed on. -/
def delivered (c : Connection σ) : Connection σ :=
  let handler := c.handler.afterResponse env
  { c with
    handler := handler
    switchedAt :=
      if handler.isEncrypted = c.handler.isEncrypted then c.switchedAt
      else some c.outgoing.length }

/-- What follows a delivered response. -/
def advance (c : Connection σ) (disconnect : Bool) : Connection σ :=
  let c := c.delivered env
  if disconnect then c.close .disconnect
  else
    let leftover := c.request.takeLeftover
    let c := { c with request := .new }
    if leftover.isEmpty then c else c.feed env leftover

def respond (c : Connection σ) (delivered : Bool) : Connection σ :=
  let (response, handler) := c.handler.connRequest env c.request.view
  let c := { c with
    handler := handler
    handled := c.handled ++ [c.request.view] }.write env response
  if delivered then c.advance env response.disconnect else c.close .writeFailed

def step (c : Connection σ) : ConnectionLabel → Option (Connection σ)
  | .read bytes =>
    if c.status = .serving ∧ c.request.complete = false ∧ bytes ≠ [] ∧
        bytes.length ≤ READ_BUFFER then
      some (if c.handler.isEncrypted then c.readSealed env bytes else c.readClear env bytes)
    else none
  | .respond delivered =>
    if c.status = .serving ∧ c.request.complete = true then some (c.respond env delivered) else none
  | .eof =>
    if c.status = .serving ∧ c.request.complete = false then some (c.close .eof) else none
  | .shutdown => if c.status = .serving then some (c.close .shutdown) else none

end Connection

def connectionSystem (conn : σ) : TransitionSystem (Connection σ) ConnectionLabel where
  init := .init conn
  step := Connection.step env

end AirSonos.Rtsp
