import AirSonos.Lib.Bytes
import AirSonos.Lib.Incremental

/-!
# The encrypted transport of an RTSP connection

A message is cut into blocks. A block goes out as its length, its ciphertext and a tag, under a
nonce that counts the blocks. The receiver decrypts the whole blocks of what has arrived.
-/

namespace AirSonos.Rtsp

open Incremental

abbrev Key := Vector UInt8 32
abbrev Nonce := Vector UInt8 12

def MAX_BLOCK_LEN : ℕ := 0x400
def TAG_LEN : ℕ := 16

/-- ChaCha20-Poly1305; a ciphertext carries its tag at the end. -/
structure Aead where
  encrypt : Key → Nonce → (msg aad : List UInt8) → Option (List UInt8)
  decrypt : Key → Nonce → (msg aad : List UInt8) → Option (List UInt8)

structure Aead.Lawful (aead : Aead) : Prop where
  seals : ∀ key nonce msg aad, msg.length ≤ MAX_BLOCK_LEN →
    ∃ ciphertext, aead.encrypt key nonce msg aad = some ciphertext ∧
      ciphertext.length = msg.length + TAG_LEN ∧
      aead.decrypt key nonce ciphertext aad = some msg

structure CipherContext where
  key : Key
  counter : UInt64
deriving DecidableEq

namespace CipherContext

def new (key : Key) : CipherContext :=
  ⟨key, 0⟩

def nonce (ctx : CipherContext) : Nonce :=
  ⟨(List.replicate 4 0 ++ Bytes.toLe 8 ctx.counter.toNat).toArray, by simp⟩

def bump (ctx : CipherContext) : CipherContext :=
  { ctx with counter := ctx.counter + 1 }

variable (aead : Aead)

def encryptChunks : CipherContext → (chunks : List (List UInt8)) → (out : List UInt8) →
    Option (List UInt8) × CipherContext
  | ctx, [], out => (some out, ctx)
  | ctx, chunk :: chunks, out =>
    let blockLen := Bytes.toLe 2 chunk.length
    match aead.encrypt ctx.key ctx.nonce chunk blockLen with
    | none => (none, ctx)
    | some ciphertext => encryptChunks ctx.bump chunks (out ++ blockLen ++ ciphertext)

def encrypt (ctx : CipherContext) (plaintext : List UInt8) :
    Option (List UInt8) × CipherContext :=
  if plaintext.isEmpty then (none, ctx)
  else encryptChunks aead ctx (plaintext.chunks MAX_BLOCK_LEN) []

def decryptFrom (ciphertext : List UInt8) :
    (fuel : ℕ) → CipherContext → (plain : List UInt8) → (pos : ℕ) →
      Option (List UInt8 × ℕ) × CipherContext
  | 0, ctx, plain, pos => (some (plain, pos), ctx)
  | fuel + 1, ctx, plain, pos =>
    if pos + 2 ≤ ciphertext.length then
      let blockLenBytes := (ciphertext.drop pos).take 2
      let blockLen := Bytes.fromLe blockLenBytes
      if blockLen = 0 ∨ MAX_BLOCK_LEN < blockLen then (none, ctx)
      else
        let frameLen := 2 + blockLen + TAG_LEN
        if ciphertext.length < pos + frameLen then (some (plain, pos), ctx)
        else
          match aead.decrypt ctx.key ctx.nonce
            ((ciphertext.drop (pos + 2)).take (blockLen + TAG_LEN)) blockLenBytes with
          | none => (none, ctx)
          | some block => decryptFrom ciphertext fuel ctx.bump (plain ++ block) (pos + frameLen)
    else (some (plain, pos), ctx)

def decrypt (ctx : CipherContext) (ciphertext : List UInt8) :
    Option (List UInt8 × ℕ) × CipherContext :=
  decryptFrom aead ciphertext ciphertext.length ctx [] 0

/-! ### Decryption as an incremental decoder -/

/-- The block at the front of the input. -/
def nextBlock (ctx : CipherContext) (input : List UInt8) : Verdict CipherContext (List UInt8) :=
  if 2 ≤ input.length then
    let blockLen := Bytes.fromLe (input.take 2)
    if blockLen = 0 ∨ MAX_BLOCK_LEN < blockLen then .malformed
    else if input.length < 2 + blockLen + TAG_LEN then .more
    else
      match aead.decrypt ctx.key ctx.nonce ((input.drop 2).take (blockLen + TAG_LEN))
        (input.take 2) with
      | none => .malformed
      | some block => .output block (2 + blockLen + TAG_LEN) ctx.bump
  else .more

variable {aead}

theorem nextBlock_short {ctx : CipherContext} {input : List UInt8} (h : input.length < 2) :
    nextBlock aead ctx input = .more :=
  if_neg (Nat.not_le.mpr h)

variable (aead) in
theorem nextBlock_nil (ctx : CipherContext) : nextBlock aead ctx [] = .more :=
  nextBlock_short Nat.two_pos

/-- A verdict is final: only a missing end of the block can change it. -/
theorem nextBlock_append {ctx : CipherContext} {input : List UInt8} (more : List UInt8)
    (h : nextBlock aead ctx input ≠ .more) :
    nextBlock aead ctx (input ++ more) = nextBlock aead ctx input := by
  have hlength : 2 ≤ input.length := by
    by_contra hshort
    exact h (nextBlock_short (Nat.not_le.mp hshort))
  have htake : (input ++ more).take 2 = input.take 2 := List.take_append_of_le_length hlength
  have hlonger : 2 ≤ (input ++ more).length := by
    rw [List.length_append]
    omega
  rw [nextBlock, if_pos hlength] at h
  simp only [nextBlock, if_pos hlength, if_pos hlonger, htake]
  split
  · rfl
  · rename_i hvalid
    rw [if_neg hvalid] at h
    have hframe : ¬input.length < 2 + Bytes.fromLe (input.take 2) + TAG_LEN := by
      intro hincomplete
      rw [if_pos hincomplete] at h
      exact h rfl
    have hframe' : ¬(input ++ more).length < 2 + Bytes.fromLe (input.take 2) + TAG_LEN := by
      rw [List.length_append]
      omega
    have hblock : ((input ++ more).drop 2).take (Bytes.fromLe (input.take 2) + TAG_LEN) =
        (input.drop 2).take (Bytes.fromLe (input.take 2) + TAG_LEN) := by
      rw [List.drop_append_of_le_length hlength]
      apply List.take_append_of_le_length
      rw [List.length_drop]
      omega
    rw [if_neg hframe, if_neg hframe', hblock]

theorem nextBlock_output {ctx after : CipherContext} {input block : List UInt8} {used : ℕ}
    (h : nextBlock aead ctx input = .output block used after) :
    2 + TAG_LEN < used ∧ used ≤ 2 + MAX_BLOCK_LEN + TAG_LEN ∧ used ≤ input.length ∧
      after = ctx.bump := by
  simp only [nextBlock] at h
  split at h
  · split at h
    · cases h
    · rename_i hvalid
      split at h
      · cases h
      · rename_i hframe
        split at h
        · cases h
        · cases h
          push Not at hvalid
          refine ⟨?_, ?_, Nat.not_lt.mp hframe, rfl⟩ <;> omega
  · cases h

theorem nextBlock_stable : Stable (nextBlock aead) where
  used_pos h := Nat.zero_lt_of_lt (nextBlock_output h).1
  used_le h := (nextBlock_output h).2.2.1
  extend more h := by
    rw [nextBlock_append more (by rw [h]; rintro ⟨⟩), h]

/-- What is kept for later is shorter than a block. -/
theorem length_lt_of_more {ctx : CipherContext} {input : List UInt8}
    (h : nextBlock aead ctx input = .more) : input.length < 2 + MAX_BLOCK_LEN + TAG_LEN := by
  simp only [nextBlock] at h
  split at h
  · split at h
    · cases h
    · rename_i hvalid
      split at h
      · push Not at hvalid
        omega
      · split at h <;> cases h
  · have hpos : 2 ≤ 2 + MAX_BLOCK_LEN + TAG_LEN := by decide
    omega

/-! ### What was encrypted is read back -/

/-- A block on the wire, whatever follows it. -/
theorem nextBlock_frame (lawful : aead.Lawful) (ctx : CipherContext) {chunk : List UInt8}
    (hpos : 0 < chunk.length) (hle : chunk.length ≤ MAX_BLOCK_LEN) :
    ∃ ciphertext, aead.encrypt ctx.key ctx.nonce chunk (Bytes.toLe 2 chunk.length) =
        some ciphertext ∧
      ∀ more, nextBlock aead ctx (Bytes.toLe 2 chunk.length ++ ciphertext ++ more) =
        .output chunk (Bytes.toLe 2 chunk.length ++ ciphertext).length ctx.bump := by
  obtain ⟨ciphertext, hencrypt, hlength, hdecrypt⟩ :=
    lawful.seals ctx.key ctx.nonce chunk (Bytes.toLe 2 chunk.length) hle
  refine ⟨ciphertext, hencrypt, fun more => ?_⟩
  have hlen : (Bytes.toLe 2 chunk.length).length = 2 := Bytes.length_toLe 2 chunk.length
  have htake : (Bytes.toLe 2 chunk.length ++ ciphertext ++ more).take 2 =
      Bytes.toLe 2 chunk.length := by
    rw [List.append_assoc, List.take_left' hlen]
  have hdrop : (Bytes.toLe 2 chunk.length ++ ciphertext ++ more).drop 2 = ciphertext ++ more := by
    rw [List.append_assoc, List.drop_left' hlen]
  have hblockLen : Bytes.fromLe (Bytes.toLe 2 chunk.length) = chunk.length := by
    apply Bytes.fromLe_toLe_of_lt
    have hbound : MAX_BLOCK_LEN < 256 ^ 2 := by decide
    omega
  have hbody : (ciphertext ++ more).take (chunk.length + TAG_LEN) = ciphertext := by
    rw [← hlength, List.take_left]
  have htotal : (Bytes.toLe 2 chunk.length ++ ciphertext ++ more).length =
      2 + (chunk.length + TAG_LEN) + more.length := by
    simp only [List.length_append, hlen, hlength]
  have hused : (Bytes.toLe 2 chunk.length ++ ciphertext).length = 2 + chunk.length + TAG_LEN := by
    rw [List.length_append, hlen, hlength, Nat.add_assoc]
  simp only [nextBlock, htake, hdrop, hblockLen, hbody, hdecrypt, htotal, hused]
  rw [if_pos (by omega), if_neg (by omega), if_neg (by omega)]

theorem reads_encryptChunks (lawful : aead.Lawful) (ctx : CipherContext)
    {chunks : List (List UInt8)}
    (lengths : ∀ chunk ∈ chunks, 0 < chunk.length ∧ chunk.length ≤ MAX_BLOCK_LEN)
    (out : List UInt8) :
    ∃ wire after, encryptChunks aead ctx chunks out = (some (out ++ wire), after) ∧
      Reads (nextBlock aead) ctx wire chunks after [] := by
  induction chunks generalizing ctx out with
  | nil => exact ⟨[], ctx, by rw [encryptChunks, List.append_nil], .stop ctx []⟩
  | cons chunk chunks ih =>
    obtain ⟨hpos, hle⟩ := lengths chunk List.mem_cons_self
    obtain ⟨ciphertext, hencrypt, hframe⟩ := nextBlock_frame lawful ctx hpos hle
    obtain ⟨wire, after, hrest, hreads⟩ := ih ctx.bump
      (fun chunk hmem => lengths chunk (List.mem_cons_of_mem _ hmem))
      (out ++ Bytes.toLe 2 chunk.length ++ ciphertext)
    refine ⟨Bytes.toLe 2 chunk.length ++ ciphertext ++ wire, after, ?_, ?_⟩
    · simp only [encryptChunks, hencrypt, hrest]
      simp only [List.append_assoc]
    · refine .output (hframe wire) ?_
      rw [List.drop_left]
      exact hreads

theorem reads_encrypt (lawful : aead.Lawful) (ctx : CipherContext) {plaintext : List UInt8}
    (hplain : plaintext ≠ []) :
    ∃ wire after, encrypt aead ctx plaintext = (some wire, after) ∧
      Reads (nextBlock aead) ctx wire (plaintext.chunks MAX_BLOCK_LEN) after [] := by
  obtain ⟨wire, after, hencrypt, hreads⟩ := reads_encryptChunks lawful ctx
    (fun chunk hmem => List.length_of_mem_chunks (by decide : 0 < MAX_BLOCK_LEN) hmem) []
  refine ⟨wire, after, ?_, hreads⟩
  rw [encrypt, if_neg (mt List.isEmpty_iff.mp hplain), hencrypt, List.nil_append]

variable (aead) in
/-- A sender encrypts its messages one after another under one context. -/
def encryptAll : CipherContext → (messages : List (List UInt8)) →
    Option (List UInt8 × CipherContext)
  | ctx, [] => some ([], ctx)
  | ctx, message :: messages =>
    match encrypt aead ctx message with
    | (none, _) => none
    | (some wire, after) => (encryptAll after messages).map fun (later, last) =>
      (wire ++ later, last)

theorem ne_nil_of_encrypt {ctx after : CipherContext} {plaintext wire : List UInt8}
    (h : encrypt aead ctx plaintext = (some wire, after)) : plaintext ≠ [] := by
  rintro rfl
  cases h

theorem reads_encryptAll (lawful : aead.Lawful) {ctx after : CipherContext}
    {messages : List (List UInt8)} {wire : List UInt8}
    (h : encryptAll aead ctx messages = some (wire, after)) :
    Reads (nextBlock aead) ctx wire (messages.flatMap (List.chunks MAX_BLOCK_LEN)) after [] := by
  induction messages generalizing ctx wire with
  | nil =>
    cases h
    exact .stop _ []
  | cons message messages ih =>
    rw [encryptAll] at h
    split at h
    · cases h
    · rename_i first middle hfirst
      obtain ⟨⟨later, last⟩, hlater, heq⟩ := Option.map_eq_some_iff.mp h
      cases heq
      obtain ⟨wire, between, hencrypt, hreads⟩ :=
        reads_encrypt lawful ctx (ne_nil_of_encrypt hfirst)
      rw [hencrypt] at hfirst
      cases hfirst
      exact hreads.feed nextBlock_stable (ih hlater)

theorem flatten_flatMap_chunks (messages : List (List UInt8)) :
    (messages.flatMap (List.chunks MAX_BLOCK_LEN)).flatten = messages.flatten := by
  induction messages with
  | nil => rfl
  | cons message messages ih =>
    rw [List.flatMap_cons, List.flatten_append, ih, List.flatten_cons,
      List.flatten_chunks (by decide : 0 < MAX_BLOCK_LEN)]

/-- Of a part of the wire the receiver reads a part of the messages and finds no fault. -/
theorem reads_of_initial (lawful : aead.Lawful) {ctx after : CipherContext}
    {messages : List (List UInt8)} {wire : List UInt8}
    (sent : encryptAll aead ctx messages = some (wire, after)) {seen : List UInt8}
    (hseen : seen <+: wire) {outputs : List (List UInt8)} {state : CipherContext}
    {rest : List UInt8} (hreads : Reads (nextBlock aead) ctx seen outputs state rest) :
    nextBlock aead state rest ≠ .malformed ∧ outputs.flatten <+: messages.flatten ∧
      (nextBlock aead state rest = .more → seen = wire →
        outputs.flatten = messages.flatten ∧ state = after ∧ rest = []) := by
  obtain ⟨unseen, rfl⟩ := hseen
  have hsettled : Settled (nextBlock aead) after [] :=
    settled_of_more (nextBlock_nil aead after)
  obtain ⟨between, hbetween, hall⟩ := (hreads.extend nextBlock_stable unseen).continues
    (reads_encryptAll lawful sent) hsettled
  have hflatten := congrArg List.flatten hall
  rw [flatten_flatMap_chunks, List.flatten_append] at hflatten
  refine ⟨fun hmalformed => ?_, ⟨between.flatten, hflatten.symm⟩, fun hmore hseen => ?_⟩
  · have hstays : nextBlock aead state (rest ++ unseen) = .malformed := by
      rw [nextBlock_append unseen (by rw [hmalformed]; rintro ⟨⟩), hmalformed]
    obtain ⟨-, -, hrest⟩ := hbetween.eq_of_settled (settled_of_malformed hstays)
    rw [(List.append_eq_nil_iff.mp hrest.symm).1, nextBlock_nil] at hmalformed
    cases hmalformed
  · rw [List.self_eq_append_right.mp hseen, List.append_nil] at hbetween
    obtain ⟨hnone, hstate, hrest⟩ := hbetween.eq_of_settled (settled_of_more hmore)
    rw [hnone, List.flatten_nil, List.append_nil] at hflatten
    exact ⟨hflatten.symm, hstate.symm, hrest.symm⟩

theorem encryptAll_append {ctx middle last : CipherContext} {messages : List (List UInt8)}
    {message wire later : List UInt8}
    (h : encryptAll aead ctx messages = some (wire, middle))
    (next : encrypt aead middle message = (some later, last)) :
    encryptAll aead ctx (messages ++ [message]) = some (wire ++ later, last) := by
  induction messages generalizing ctx wire with
  | nil =>
    cases h
    simp only [List.nil_append, encryptAll, next, Option.map_some, List.append_nil]
  | cons first messages ih =>
    rw [encryptAll] at h
    split at h
    · cases h
    · rename_i front after hfirst
      obtain ⟨⟨rest, final⟩, hrest, heq⟩ := Option.map_eq_some_iff.mp h
      cases heq
      simp only [List.cons_append, encryptAll, hfirst, ih hrest, Option.map_some,
        List.append_assoc]

/-- Decryption drains the whole blocks of the input. -/
theorem decryptFrom_eq (ciphertext : List UInt8) (fuel : ℕ) (ctx : CipherContext)
    (plain : List UInt8) {pos : ℕ} (hpos : pos ≤ ciphertext.length) :
    decryptFrom aead ciphertext fuel ctx plain pos =
      (let drained := drain (nextBlock aead) fuel ctx (ciphertext.drop pos)
       (if drained.malformed then none
        else some (plain ++ drained.outputs.flatten, ciphertext.length - drained.rest.length),
        drained.state)) := by
  induction fuel generalizing ctx plain pos with
  | zero => simp [decryptFrom, drain, Nat.sub_sub_self hpos]
  | succ fuel ih =>
    have hlength : (ciphertext.drop pos).length = ciphertext.length - pos := List.length_drop
    have hshort : (2 ≤ (ciphertext.drop pos).length) = (pos + 2 ≤ ciphertext.length) := by
      rw [hlength, eq_iff_iff]
      omega
    have hframe (frameLen : ℕ) : ((ciphertext.drop pos).length < frameLen) =
        (ciphertext.length < pos + frameLen) := by
      rw [hlength, eq_iff_iff]
      omega
    simp only [decryptFrom, drain, nextBlock, hshort, hframe, List.drop_drop]
    split
    · split
      · rfl
      · split
        · simp [Nat.sub_sub_self hpos]
        · rename_i hcomplete
          split
          · rfl
          · rename_i block hdecrypt
            rw [ih ctx.bump (plain ++ block) (Nat.not_lt.mp hcomplete)]
            simp only [List.flatten_cons, List.append_assoc]
    · simp [Nat.sub_sub_self hpos]

theorem decrypt_eq (ctx : CipherContext) (ciphertext : List UInt8) :
    decrypt aead ctx ciphertext =
      (let drained := drain (nextBlock aead) ciphertext.length ctx ciphertext
       (if drained.malformed then none
        else some (drained.outputs.flatten, ciphertext.length - drained.rest.length),
        drained.state)) :=
  decryptFrom_eq ciphertext ciphertext.length ctx [] (Nat.zero_le _)

variable (aead) in
/-- What decryption does with the bytes at hand. -/
theorem decrypt_cases (ctx : CipherContext) (ciphertext : List UInt8) :
    ∃ outputs state rest, Reads (nextBlock aead) ctx ciphertext outputs state rest ∧
      ((nextBlock aead state rest = .malformed ∧ decrypt aead ctx ciphertext = (none, state)) ∨
        (nextBlock aead state rest = .more ∧ decrypt aead ctx ciphertext =
          (some (outputs.flatten, ciphertext.length - rest.length), state))) := by
  refine ⟨_, _, _, reads_drain ciphertext.length ctx ciphertext, ?_⟩
  have hstable : Stable (nextBlock aead) := nextBlock_stable
  have hverdict := drain_verdict hstable ctx ciphertext (Nat.le_refl _) (nextBlock_nil aead)
  rw [decrypt_eq]
  cases hmalformed : (drain (nextBlock aead) ciphertext.length ctx ciphertext).malformed with
  | true =>
    rw [hmalformed] at hverdict
    exact .inl ⟨hverdict, by simp only [hmalformed, if_true]⟩
  | false =>
    rw [hmalformed] at hverdict
    exact .inr ⟨hverdict, by simp only [hmalformed, Bool.false_eq_true, if_false]⟩

/-- The peer decrypts every part of the wire to a part of the messages, and the whole to all. -/
theorem decrypt_of_initial (lawful : aead.Lawful) {ctx after : CipherContext}
    {messages : List (List UInt8)} {wire : List UInt8}
    (sent : encryptAll aead ctx messages = some (wire, after)) {seen : List UInt8}
    (hseen : seen <+: wire) :
    ∃ plain consumed last, decrypt aead ctx seen = (some (plain, consumed), last) ∧
      plain <+: messages.flatten ∧
      (seen = wire → plain = messages.flatten ∧ consumed = wire.length ∧ last = after) := by
  obtain ⟨outputs, state, rest, hreads, hresult⟩ := decrypt_cases aead ctx seen
  obtain ⟨hsound, hprefix, hwhole⟩ := reads_of_initial lawful sent hseen hreads
  obtain ⟨hmalformed, -⟩ | ⟨hmore, hdecrypt⟩ := hresult
  · exact absurd hmalformed hsound
  · refine ⟨outputs.flatten, _, state, hdecrypt, hprefix, fun hall => ?_⟩
    obtain ⟨hflatten, hstate, hrest⟩ := hwhole hmore hall
    refine ⟨hflatten, ?_, hstate⟩
    rw [hrest, hall, List.length_nil, Nat.sub_zero]

end CipherContext

end AirSonos.Rtsp
