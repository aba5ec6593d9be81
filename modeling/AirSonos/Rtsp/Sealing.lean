import AirSonos.Rtsp.Service

/-!
# What crosses a sealed connection

From the response that switches the cipher on, every write is one encrypted message and every
byte that reaches the parser was decrypted. So a controller that holds the keys reads the
responses, and its own messages are read, as if nothing lay between them.
-/

namespace AirSonos.Rtsp

open Incremental CipherContext

variable {σ : Type*} {env : ConnectionEnv σ} {c after : Connection σ}

variable (env) in
/-- The bytes read under the cipher, decrypted from the context `start` to the context
`current`. -/
structure Inbound (start current : CipherContext) (c : Connection σ) : Prop where
  reads : ∃ seen outputs state rest, Reads (nextBlock env.aead) start seen outputs state rest ∧
    nextBlock env.aead state rest = .more ∧ c.plain = c.clearIn ++ outputs.flatten ∧
    seen <+: c.sealedIn ∧
    (c.status = .serving → seen = c.sealedIn ∧ state = current ∧ rest = c.rawBuf)
  fault : c.status = .closed .undecryptable → ∃ outputs state rest,
    Reads (nextBlock env.aead) start c.sealedIn outputs state rest ∧
      nextBlock env.aead state rest = .malformed
  room : c.status ≠ .closed .overflow

variable (env) in
/-- The writes before the switch are in the clear, and those behind it are the messages encrypted
from the context `start` to the context `current`. -/
def Outbound (start current : CipherContext) (switchedAt : Option ℕ)
    (outgoing : List Outgoing) : Prop :=
  ∃ clear locked, outgoing = clear ++ locked ∧ switchedAt = some clear.length ∧
    (∀ out ∈ clear, out.encrypted = false ∧ out.wire = out.response) ∧
    (∀ out ∈ locked, out.encrypted = true) ∧
    encryptAll env.aead start (locked.map Outgoing.response) =
      some (locked.flatMap Outgoing.wire, current)

structure Unsealed (c : Connection σ) : Prop where
  cipher : c.handler.cipher = none
  sealedIn : c.sealedIn = []
  rawBuf : c.rawBuf = []
  plain : c.plain = c.clearIn
  outgoing : ∀ out ∈ c.outgoing, out.encrypted = false ∧ out.wire = out.response
  fault : c.status ≠ .closed .undecryptable ∧ c.status ≠ .closed .overflow

variable (env) in
inductive Transported (c : Connection σ) : Prop
  | unsealed (h : Unsealed c)
  | locked {secret : List UInt8} {channel cipher : EncryptedChannel}
      (control : EncryptedChannel.control env secret = some channel)
      (active : c.handler.cipher = some cipher)
      (inbound : Inbound env channel.decryptCtx cipher.decryptCtx c)
      (outbound : Outbound env channel.encryptCtx cipher.encryptCtx c.switchedAt c.outgoing)

namespace Inbound

variable {start current : CipherContext}

theorem congr (h : Inbound env start current c) (plain : after.plain = c.plain)
    (clearIn : after.clearIn = c.clearIn) (sealedIn : after.sealedIn = c.sealedIn)
    (rawBuf : after.rawBuf = c.rawBuf) (status : after.status = c.status) :
    Inbound env start current after := by
  refine ⟨?_, ?_, ?_⟩
  · rw [plain, clearIn, sealedIn, rawBuf, status]
    exact h.reads
  · rw [sealedIn, status]
    exact h.fault
  · rw [status]
    exact h.room

theorem close (h : Inbound env start current c) {closing : Closing}
    (fault : closing ≠ .undecryptable) (room : closing ≠ .overflow) :
    Inbound env start current (c.close closing) := by
  obtain ⟨seen, outputs, state, rest, hreads, hmore, hplain, hseen, -⟩ := h.reads
  refine ⟨⟨seen, outputs, state, rest, hreads, hmore, hplain, hseen, by rintro ⟨⟩⟩, ?_, ?_⟩
  · rintro ⟨⟩
    exact absurd rfl fault
  · rintro ⟨⟩
    exact room rfl

end Inbound

namespace Connection

theorem write_unsealed (response : HttpResponse) (h : c.handler.cipher = none) :
    c.write env response =
      { c with outgoing := c.outgoing ++ [⟨response.data, response.data, false⟩] } := by
  rw [write, if_neg]
  rw [ConnectionHandler.isEncrypted, h]
  decide

/-- A response is never empty, so a sealed connection encrypts it. -/
theorem write_sealed (lawful : env.aead.Lawful) (response : HttpResponse)
    {cipher : EncryptedChannel} (h : c.handler.cipher = some cipher) :
    ∃ wire ctx, cipher.encryptCtx.encrypt env.aead response.data = (some wire, ctx) ∧
      c.write env response = { c with
        handler := { c.handler with cipher := some { cipher with encryptCtx := ctx } }
        outgoing := c.outgoing ++ [⟨response.data, wire, true⟩] } := by
  obtain ⟨wire, ctx, hencrypt, -⟩ := reads_encrypt lawful cipher.encryptCtx response.started
  refine ⟨wire, ctx, hencrypt, ?_⟩
  have hactive : c.handler.isEncrypted = true := by rw [ConnectionHandler.isEncrypted, h]; rfl
  simp only [write, hactive, if_true, ConnectionHandler.encryptOutgoing, h, hencrypt,
    Option.getD_some]

end Connection

theorem Outbound.snoc {start current last : CipherContext} {switchedAt : Option ℕ}
    {outgoing : List Outgoing} (h : Outbound env start current switchedAt outgoing)
    {response wire : List UInt8}
    (encrypted : current.encrypt env.aead response = (some wire, last)) :
    Outbound env start last switchedAt (outgoing ++ [⟨response, wire, true⟩]) := by
  obtain ⟨clear, locked, rfl, hswitched, hclear, hlocked, hwire⟩ := h
  refine ⟨clear, locked ++ [⟨response, wire, true⟩], List.append_assoc _ _ _, hswitched, hclear,
    ?_, ?_⟩
  · intro out hmem
    obtain hold | hnew := List.mem_append.mp hmem
    · exact hlocked out hold
    · rw [List.mem_singleton.mp hnew]
  · rw [List.map_append, List.flatMap_append, List.map_singleton, List.flatMap_singleton]
    exact encryptAll_append hwire encrypted

namespace Transported

theorem write (lawful : env.aead.Lawful) (h : Transported env c) (response : HttpResponse) :
    Transported env (c.write env response) := by
  cases h with
  | unsealed h =>
    rw [Connection.write_unsealed response h.cipher]
    refine .unsealed { h with outgoing := fun out hmem => ?_ }
    obtain hold | hnew := List.mem_append.mp hmem
    · exact h.outgoing out hold
    · rw [List.mem_singleton.mp hnew]
      exact ⟨rfl, rfl⟩
  | locked control active inbound outbound =>
    obtain ⟨wire, ctx, hencrypt, heq⟩ := Connection.write_sealed lawful response active
    rw [heq]
    exact .locked control rfl (inbound.congr rfl rfl rfl rfl rfl) (outbound.snoc hencrypt)

theorem close (h : Transported env c) {closing : Closing} (fault : closing ≠ .undecryptable)
    (room : closing ≠ .overflow) : Transported env (c.close closing) := by
  cases h with
  | unsealed h =>
    refine .unsealed { h with fault := ⟨?_, ?_⟩ }
    · rintro ⟨⟩
      exact fault rfl
    · rintro ⟨⟩
      exact room rfl
  | locked control active inbound outbound =>
    exact .locked control active (inbound.close fault room) outbound

theorem setRequest (h : Transported env c) (request : HttpRequest) :
    Transported env { c with request := request } := by
  cases h with
  | unsealed h => exact .unsealed { h with }
  | locked control active inbound outbound =>
    exact .locked control active (inbound.congr rfl rfl rfl rfl rfl) outbound

theorem feed (lawful : env.aead.Lawful) (h : Transported env c) (data : List UInt8) :
    Transported env (c.feed env data) := by
  obtain ⟨request, -, heq⟩ | ⟨request, error, -, heq⟩ := c.feed_cases env data
  · rw [heq]
    exact h.setRequest request
  · rw [heq]
    exact ((h.setRequest request).write lawful _).close (by rintro ⟨⟩) (by rintro ⟨⟩)

theorem readClear (lawful : env.aead.Lawful) (h : Transported env c)
    (clear : c.handler.isEncrypted = false) (bytes : List UInt8) :
    Transported env (c.readClear env bytes) := by
  cases h with
  | unsealed h =>
    have hread : Unsealed { c with clearIn := c.clearIn ++ bytes, plain := c.plain ++ bytes } :=
      { h with plain := congrArg (· ++ bytes) h.plain }
    exact feed lawful (.unsealed hread) bytes
  | locked control active inbound outbound =>
    rw [ConnectionHandler.isEncrypted, active] at clear
    cases clear

/-- The whole blocks of what is at hand are decrypted, and the rest is kept. -/
theorem readSealed (lawful : env.aead.Lawful) (h : Transported env c)
    (serving : c.status = .serving) (encrypted : c.handler.isEncrypted = true)
    {bytes : List UInt8} (size : bytes.length ≤ READ_BUFFER) :
    Transported env (c.readSealed env bytes) := by
  cases h with
  | unsealed h =>
    rw [ConnectionHandler.isEncrypted, h.cipher] at encrypted
    cases encrypted
  | @locked secret channel cipher control active inbound outbound =>
    obtain ⟨seen, outputs, state, rest, hreads, hmore, hplain, -, hcurrent⟩ := inbound.reads
    obtain ⟨rfl, rfl, rfl⟩ := hcurrent serving
    have hroom : ¬MAX_ENCRYPTED < (c.rawBuf ++ bytes).length := by
      have hrest := length_lt_of_more hmore
      have hbound : 2 + MAX_BLOCK_LEN + TAG_LEN + READ_BUFFER ≤ MAX_ENCRYPTED := by decide
      rw [List.length_append]
      omega
    obtain ⟨blocks, state, rest, hblocks, hresult⟩ :=
      decrypt_cases env.aead cipher.decryptCtx (c.rawBuf ++ bytes)
    have hall := hreads.feed nextBlock_stable hblocks
    simp only [Connection.readSealed, if_neg hroom, ConnectionHandler.decryptIncoming, active]
    obtain ⟨hmalformed, hdecrypt⟩ | ⟨hstop, hdecrypt⟩ := hresult
    · simp only [hdecrypt]
      refine .locked control rfl ⟨?_, fun _ => ⟨_, _, _, hall, hmalformed⟩, by rintro ⟨⟩⟩ outbound
      exact ⟨_, _, _, _, hreads, hmore, hplain, List.prefix_append _ _, by rintro ⟨⟩⟩
    · simp only [hdecrypt]
      have hrest : (c.rawBuf ++ bytes).drop ((c.rawBuf ++ bytes).length - rest.length) = rest :=
        (List.suffix_iff_eq_drop.mp hblocks.rest_suffix).symm
      have hnext : Transported env { c with
          handler := { c.handler with cipher := some { cipher with decryptCtx := state } }
          rawBuf := (c.rawBuf ++ bytes).drop ((c.rawBuf ++ bytes).length - rest.length)
          sealedIn := c.sealedIn ++ bytes
          plain := c.plain ++ blocks.flatten } := by
        refine .locked control rfl ⟨?_, ?_, ?_⟩ outbound
        · refine ⟨_, _, _, _, hall, hstop, ?_, List.prefix_refl _, fun _ => ⟨rfl, rfl, hrest.symm⟩⟩
          rw [hplain, List.flatten_append, List.append_assoc]
        · rw [serving]
          rintro ⟨⟩
        · rw [serving]
          rintro ⟨⟩
      split
      · exact hnext
      · exact hnext.feed lawful _

theorem connRequest (h : Transported env c) (request : Request) (handled : List Request) :
    Transported env { c with
      handler := (c.handler.connRequest env request).2, handled := handled } := by
  cases h with
  | unsealed h => exact .unsealed { h with cipher := h.cipher }
  | locked control active inbound outbound =>
    exact .locked control active (inbound.congr rfl rfl rfl rfl rfl) outbound

/-- The cipher is switched on with nothing read or written under it. -/
theorem delivered (h : Transported env c) : Transported env (c.delivered env) := by
  cases h with
  | unsealed h =>
    cases hpending : c.handler.pendingSecret with
    | none =>
      simp only [Connection.delivered, ConnectionHandler.afterResponse, h.cipher, hpending, if_true]
      exact .unsealed h
    | some secret =>
      cases hcontrol : EncryptedChannel.control env secret with
      | none =>
        simp only [Connection.delivered, ConnectionHandler.afterResponse, h.cipher, hpending,
          hcontrol]
        exact .unsealed { h with cipher := rfl }
      | some channel =>
        simp only [Connection.delivered, ConnectionHandler.afterResponse, h.cipher, hpending,
          hcontrol]
        refine .locked hcontrol rfl ⟨?_, ?_, ?_⟩ ?_
        · refine ⟨[], [], channel.decryptCtx, [], .stop _ _, nextBlock_nil env.aead _, ?_,
            List.nil_prefix, fun _ => ⟨h.sealedIn.symm, rfl, h.rawBuf.symm⟩⟩
          exact h.plain.trans (List.append_nil _).symm
        · exact fun hfault => absurd hfault h.fault.1
        · exact h.fault.2
        · refine ⟨c.outgoing, [], (List.append_nil _).symm, ?_, h.outgoing, by rintro _ ⟨⟩, rfl⟩
          exact if_neg (by simp [ConnectionHandler.isEncrypted, h.cipher])
  | locked control active inbound outbound =>
    simp only [Connection.delivered, ConnectionHandler.afterResponse, active, if_true]
    exact .locked control active (inbound.congr rfl rfl rfl rfl rfl) outbound

theorem respond (lawful : env.aead.Lawful) (h : Transported env c) (delivered : Bool) :
    Transported env (c.respond env delivered) := by
  have hwritten := ((h.connRequest c.request.view (c.handled ++ [c.request.view])).write lawful
    (c.handler.connRequest env c.request.view).1)
  cases delivered with
  | false => exact hwritten.close (by rintro ⟨⟩) (by rintro ⟨⟩)
  | true =>
    have hsealed := hwritten.delivered
    simp only [Connection.respond, if_true, Connection.advance]
    split
    · exact hsealed.close (by rintro ⟨⟩) (by rintro ⟨⟩)
    · split
      · exact hsealed.setRequest _
      · exact (hsealed.setRequest _).feed lawful _

theorem init (conn : σ) : Transported env (.init conn) :=
  .unsealed ⟨rfl, rfl, rfl, rfl, by rintro _ ⟨⟩, by rintro ⟨⟩, by rintro ⟨⟩⟩

theorem step (lawful : env.aead.Lawful) (h : Transported env c) {label : ConnectionLabel}
    (taken : c.step env label = some after) : Transported env after := by
  cases label with
  | read bytes =>
    simp only [Connection.step] at taken
    split at taken
    · rename_i hguard
      obtain ⟨serving, -, -, size⟩ := hguard
      cases taken
      split
      · rename_i hencrypted
        exact h.readSealed lawful serving hencrypted size
      · rename_i hclear
        exact h.readClear lawful (Bool.of_not_eq_true hclear) bytes
    · cases taken
  | respond delivered =>
    simp only [Connection.step] at taken
    split at taken
    · cases taken
      exact h.respond lawful delivered
    · cases taken
  | eof =>
    simp only [Connection.step] at taken
    split at taken
    · cases taken
      exact h.close (by rintro ⟨⟩) (by rintro ⟨⟩)
    · cases taken
  | shutdown =>
    simp only [Connection.step] at taken
    split at taken
    · cases taken
      exact h.close (by rintro ⟨⟩) (by rintro ⟨⟩)
    · cases taken

theorem of_reachable (lawful : env.aead.Lawful) {conn : σ}
    (h : (connectionSystem env conn).Reachable c) : Transported env c :=
  h.invariant (init conn) fun _ _ _ hcarried taken => hcarried.step lawful taken

end Transported

theorem handset_pairs : ∃ c, (connectionSystem Handset.rtspEnv false).run (.init false)
    Handset.pairs = some c ∧ c.handler.isEncrypted = true ∧ c.status = .serving ∧
      c.request.complete = false ∧ c.sealedIn = 22 :: 0 :: Handset.optionsSealed ∧
      c.handled.map Request.method = [some "POST", some "OPTIONS"] ∧
      c.outgoing.map Outgoing.wire = [Handset.ok, 19 :: 0 :: Handset.okSealed] ∧
      c.switchedAt = some 1 := by
  have hruns : ((connectionSystem Handset.rtspEnv false).run (.init false) Handset.pairs).map
      (fun c => (c.handler.isEncrypted, c.status, c.request.complete, c.sealedIn)) =
      some (true, .serving, false, 22 :: 0 :: Handset.optionsSealed) := by
    decide +kernel
  have hresponds : ((connectionSystem Handset.rtspEnv false).run (.init false)
      Handset.pairs).map (fun c => (c.handled.map Request.method, c.outgoing.map Outgoing.wire,
        c.switchedAt)) =
      some ([some "POST", some "OPTIONS"], [Handset.ok, 19 :: 0 :: Handset.okSealed], some 1) := by
    decide +kernel
  obtain ⟨c, hrun, hread⟩ := Option.map_eq_some_iff.mp hruns
  rw [hrun, Option.map_some, Option.some_inj] at hresponds
  simp only [Prod.mk.injEq] at hread hresponds
  exact ⟨c, hrun, hread.1, hread.2.1, hread.2.2.1, hread.2.2.2, hresponds⟩

/-- Every write after the switch is encrypted, and the peer that holds the key decrypts them to
exactly the responses. -/
theorem responses_sealed (lawful : env.aead.Lawful) {conn : σ}
    (h : (connectionSystem env conn).Reachable c) (active : c.handler.isEncrypted = true) :
    ∃ secret channel clear locked, EncryptedChannel.control env secret = some channel ∧
      c.outgoing = clear ++ locked ∧ c.switchedAt = some clear.length ∧
      (∀ out ∈ clear, out.encrypted = false ∧ out.wire = out.response) ∧
      (∀ out ∈ locked, out.encrypted = true) ∧
      ∀ received, received <+: locked.flatMap Outgoing.wire →
        ∃ plain consumed last,
          channel.encryptCtx.decrypt env.aead received = (some (plain, consumed), last) ∧
          plain <+: (locked.map Outgoing.response).flatten ∧
          (received = locked.flatMap Outgoing.wire →
            plain = (locked.map Outgoing.response).flatten) := by
  cases Transported.of_reachable lawful h with
  | unsealed h =>
    rw [ConnectionHandler.isEncrypted, h.cipher] at active
    cases active
  | @locked secret channel cipher control _ _ outbound =>
    obtain ⟨clear, locked, houtgoing, hswitched, hclear, hlocked, hsent⟩ := outbound
    refine ⟨secret, channel, clear, locked, control, houtgoing, hswitched, hclear, hlocked,
      fun received hreceived => ?_⟩
    obtain ⟨plain, consumed, last, hdecrypt, hpart, hwhole⟩ :=
      decrypt_of_initial lawful hsent hreceived
    exact ⟨plain, consumed, last, hdecrypt, hpart, fun hall => (hwhole hall).1⟩

theorem responses_sealed_on_handset :
    ∃ c, (connectionSystem Handset.rtspEnv false).run (.init false) Handset.pairs = some c ∧
      c.handler.isEncrypted = true ∧
      c.outgoing.map Outgoing.wire = [Handset.ok, 19 :: 0 :: Handset.okSealed] ∧
      c.switchedAt = some 1 ∧
      ∃ secret channel clear locked,
        EncryptedChannel.control Handset.rtspEnv secret = some channel ∧
        c.outgoing = clear ++ locked ∧ c.switchedAt = some clear.length ∧
        (∀ out ∈ clear, out.encrypted = false ∧ out.wire = out.response) ∧
        (∀ out ∈ locked, out.encrypted = true) ∧
        ∀ received, received <+: locked.flatMap Outgoing.wire →
          ∃ plain consumed last,
            channel.encryptCtx.decrypt Handset.rtspEnv.aead received =
              (some (plain, consumed), last) ∧
            plain <+: (locked.map Outgoing.response).flatten ∧
            (received = locked.flatMap Outgoing.wire →
              plain = (locked.map Outgoing.response).flatten) := by
  obtain ⟨c, hrun, hactive, -, -, -, -, hwires, hswitched⟩ := handset_pairs
  exact ⟨c, hrun, hactive, hwires, hswitched,
    responses_sealed Handset.aead_lawful (.of_run .init hrun) hactive⟩

end AirSonos.Rtsp
