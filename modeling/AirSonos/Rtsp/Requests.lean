import AirSonos.Lib.AssocMap
import AirSonos.Lib.Incremental
import AirSonos.Lib.Text

/-!
# Requests in a byte stream

The parser keeps what has arrived until the head of a request is complete, then until its body
is. An Apple sender writes `RTSP/1.0` where the head parser knows only HTTP, so the first
`RTSP/1.0` in the buffer is rewritten for it.
-/

namespace AirSonos.Rtsp

open Incremental

/-! ### The head of a request -/

def RTSP_1_0 : List UInt8 := [82, 84, 83, 80, 47, 49, 46, 48]
def HTTP : List UInt8 := [72, 84, 84, 80]
def NEWLINE : UInt8 := 10

/-- The first `RTSP/1.0` of the buffer reads `HTTP/1.0`. -/
def parseBuf : (buffer : List UInt8) → List UInt8
  | [] => []
  | byte :: bytes =>
    if RTSP_1_0.isPrefixOf (byte :: bytes) then HTTP ++ (byte :: bytes).drop 4
    else byte :: parseBuf bytes

theorem parseBuf_rtsp (rest : List UInt8) : parseBuf (RTSP_1_0 ++ rest) =
    [72, 84, 84, 80, 47, 49, 46, 48] ++ rest := by
  simp [RTSP_1_0, HTTP, parseBuf, List.isPrefixOf]

theorem parseBuf_newline {buffer : List UInt8} {i : ℕ}
    (h : (parseBuf buffer)[i]? = some NEWLINE) : buffer[i]? = some NEWLINE := by
  induction buffer generalizing i with
  | nil => cases h
  | cons byte bytes ih =>
    by_cases hrtsp : RTSP_1_0.isPrefixOf (byte :: bytes)
    · obtain ⟨rest, hrest⟩ := List.isPrefixOf_iff_prefix.mp hrtsp
      rw [← hrest] at h ⊢
      rw [parseBuf_rtsp] at h
      by_cases hi : i < 8
      · rw [List.getElem?_append_left (by simpa using hi)] at h
        exact absurd (List.mem_of_getElem? h) (by decide)
      · rw [List.getElem?_append_right (Nat.not_lt.mp hi)] at h
        rw [List.getElem?_append_right (Nat.not_lt.mp hi)]
        exact h
    · rw [parseBuf, if_neg hrtsp] at h
      cases i with
      | zero => exact h
      | succ i => exact ih h

/-- What follows a line does not change how the line reads. -/
theorem take_parseBuf_append {buffer : List UInt8} {n : ℕ} (hpos : 0 < n)
    (last : buffer[n - 1]? = some NEWLINE) (more : List UInt8) :
    (parseBuf (buffer ++ more)).take n = (parseBuf buffer).take n := by
  induction buffer generalizing n with
  | nil => cases last
  | cons byte bytes ih =>
    have hle : n ≤ (byte :: bytes).length := by
      obtain ⟨hlt, -⟩ := List.getElem?_eq_some_iff.mp last
      omega
    by_cases hrtsp : RTSP_1_0.isPrefixOf (byte :: bytes)
    · obtain ⟨rest, hrest⟩ := List.isPrefixOf_iff_prefix.mp hrtsp
      have hlength : n ≤ ([72, 84, 84, 80, 47, 49, 46, 48] ++ rest : List UInt8).length := by
        rw [← hrest] at hle
        exact hle
      rw [← hrest, List.append_assoc, parseBuf_rtsp, parseBuf_rtsp, ← List.append_assoc,
        List.take_append_of_le_length hlength]
    · have hlonger : ¬RTSP_1_0.isPrefixOf (byte :: bytes ++ more) = true := by
        intro hstraddles
        -- the newline would have to be one of the letters of `RTSP/1.0`
        have hprefix := List.isPrefixOf_iff_prefix.mp hstraddles
        have hshort : (byte :: bytes).length < RTSP_1_0.length := by
          by_contra hlong
          exact hrtsp (List.isPrefixOf_iff_prefix.mpr (List.prefix_of_prefix_length_le hprefix
            (List.prefix_append (byte :: bytes) more) (Nat.not_lt.mp hlong)))
        have hletters : byte :: bytes <+: RTSP_1_0 := List.prefix_of_prefix_length_le
          (List.prefix_append (byte :: bytes) more) hprefix (Nat.le_of_lt hshort)
        exact absurd (hletters.mem (List.mem_of_getElem? last)) (by decide)
      rw [List.cons_append] at hlonger
      rw [List.cons_append, parseBuf, if_neg hlonger, parseBuf, if_neg hrtsp]
      obtain ⟨m, rfl⟩ := Nat.exists_eq_add_of_lt hpos
      rw [Nat.zero_add, List.take_succ_cons, List.take_succ_cons]
      cases m with
      | zero => rfl
      | succ m =>
        congr 1
        apply ih (Nat.succ_pos m)
        simpa using last

/-- What httparse makes of a buffer. -/
inductive Parsed
  | complete (bodyOffset : ℕ) (method path : Option String) (headers : List (String × List UInt8))
  | incomplete
  | failed (error : String)

/-- A complete head ends in a line feed and is read again in every buffer that begins with it. -/
structure Lawful (httparse : List UInt8 → Parsed) : Prop where
  empty : httparse [] = .incomplete
  ends : ∀ {buffer bodyOffset method path headers},
    httparse buffer = .complete bodyOffset method path headers →
      0 < bodyOffset ∧ buffer[bodyOffset - 1]? = some NEWLINE
  head : ∀ {buffer other bodyOffset method path headers},
    httparse buffer = .complete bodyOffset method path headers →
      other.take bodyOffset = buffer.take bodyOffset →
        httparse other = .complete bodyOffset method path headers

/-- `fromUtf8Lossy` is the string of a header value. -/
structure ParserEnv where
  httparse : List UInt8 → Parsed
  fromUtf8Lossy : List UInt8 → String

inductive ProtocolError
  | invalidRtsp (message : String)
deriving DecidableEq

def MAX_HEADER_BYTES : ℕ := 64 * 1024
def MAX_BODY_BYTES : ℕ := 32 * 1024 * 1024
def USIZE_BOUND : ℕ := 2 ^ 64

structure HttpRequest where
  buffer : List UInt8
  method : Option String
  url : Option String
  headers : AssocMap String String
  body : Option (List UInt8)
  contentLength : Option ℕ
  headersComplete : Bool
  complete : Bool
  error : Option String

/-- What a handler can see of a request. -/
structure Request where
  method : Option String
  url : Option String
  headers : AssocMap String String
  data : Option (List UInt8)

def contentLengthOf (headers : AssocMap String String) : Option ℕ :=
  (headers.lookup "content-length").bind fun value => Text.parseUnsigned USIZE_BOUND value.toList

namespace HttpRequest

def new : HttpRequest where
  buffer := []
  method := none
  url := none
  headers := ∅
  body := none
  contentLength := none
  headersComplete := false
  complete := false
  error := none

def view (request : HttpRequest) : Request :=
  ⟨request.method, request.url, request.headers, request.body⟩

variable (env : ParserEnv)

def insertHeaders (map : AssocMap String String) (headers : List (String × List UInt8)) :
    AssocMap String String :=
  headers.foldl (fun map header =>
    AList.insert header.1.toLower (env.fromUtf8Lossy header.2) map) map

def tryParseHeaders (request : HttpRequest) : HttpRequest × Except ProtocolError Unit :=
  match env.httparse (parseBuf request.buffer) with
  | .complete bodyOffset method path headers =>
    let headers := insertHeaders env request.headers headers
    let parsed := { request with
      method := method, url := path, headers := headers, contentLength := contentLengthOf headers }
    if MAX_BODY_BYTES < parsed.contentLength.getD 0 then
      (parsed, .error (.invalidRtsp "request body exceeds 32 MiB"))
    else
      ({ parsed with headersComplete := true, buffer := request.buffer.drop bodyOffset }, .ok ())
  | .incomplete => (request, .ok ())
  | .failed error => ({ request with error := some error }, .error (.invalidRtsp error))

def tryCompleteBody (request : HttpRequest) : HttpRequest :=
  let needed := request.contentLength.getD 0
  if needed ≤ request.buffer.length then
    { request with
      body := if 0 < needed then some (request.buffer.take needed) else request.body
      complete := true }
  else request

def addData (request : HttpRequest) (data : List UInt8) : HttpRequest × Except ProtocolError Unit :=
  if request.complete then (request, .ok ())
  else
    let fed := { request with buffer := request.buffer ++ data }
    if fed.headersComplete then (fed.tryCompleteBody, .ok ())
    else if MAX_HEADER_BYTES < fed.buffer.length then
      (fed, .error (.invalidRtsp "request headers exceed 64 KiB"))
    else
      match tryParseHeaders env fed with
      | (parsed, .error error) => (parsed, .error error)
      | (parsed, .ok ()) =>
        (if parsed.headersComplete then parsed.tryCompleteBody else parsed, .ok ())

def takeLeftover (request : HttpRequest) : List UInt8 :=
  let needed := request.contentLength.getD 0
  if request.complete && needed < request.buffer.length then request.buffer.drop needed else []

end HttpRequest

/-! ### The requests of a whole stream -/

variable (env : ParserEnv)

/-- The request at the front of a stream, whatever the pieces it arrived in. -/
def nextRequest (_ : Unit) (stream : List UInt8) : Verdict Unit Request :=
  match env.httparse (parseBuf stream) with
  | .incomplete => .more
  | .failed _ => .malformed
  | .complete bodyOffset method path headers =>
    let headers := HttpRequest.insertHeaders env ∅ headers
    let needed := (contentLengthOf headers).getD 0
    if MAX_BODY_BYTES < needed then .malformed
    else if stream.length < bodyOffset + needed then .more
    else
      .output ⟨method, path, headers,
        if 0 < needed then some ((stream.drop bodyOffset).take needed) else none⟩
        (bodyOffset + needed) ()

/-- What has arrived is too long before its head is read, or it cannot be read. -/
def Refused (stream : List UInt8) : Prop :=
  MAX_HEADER_BYTES < stream.length ∨ nextRequest env () stream = .malformed

variable {env}

theorem Lawful.parse_append (lawful : Lawful env.httparse) {stream : List UInt8}
    {bodyOffset : ℕ} {method path : Option String} {headers : List (String × List UInt8)}
    (h : env.httparse (parseBuf stream) = .complete bodyOffset method path headers)
    (more : List UInt8) :
    env.httparse (parseBuf (stream ++ more)) = .complete bodyOffset method path headers := by
  obtain ⟨hpos, hlast⟩ := lawful.ends h
  exact lawful.head h (take_parseBuf_append hpos (parseBuf_newline hlast) more)

theorem Lawful.bodyOffset_le (lawful : Lawful env.httparse) {stream : List UInt8}
    {bodyOffset : ℕ} {method path : Option String} {headers : List (String × List UInt8)}
    (h : env.httparse (parseBuf stream) = .complete bodyOffset method path headers) :
    0 < bodyOffset ∧ bodyOffset ≤ stream.length := by
  obtain ⟨hpos, hlast⟩ := lawful.ends h
  obtain ⟨hlt, -⟩ := List.getElem?_eq_some_iff.mp (parseBuf_newline hlast)
  omega

theorem nextRequest_output {stream : List UInt8} {request : Request} {used : ℕ} {after : Unit}
    (h : nextRequest env () stream = .output request used after) :
    ∃ bodyOffset method path headers,
      env.httparse (parseBuf stream) = .complete bodyOffset method path headers ∧
      used = bodyOffset + (contentLengthOf (HttpRequest.insertHeaders env ∅ headers)).getD 0 ∧
      used ≤ stream.length := by
  simp only [nextRequest] at h
  split at h
  · cases h
  · cases h
  · rename_i bodyOffset method path headers hparse
    split at h
    · cases h
    · split at h
      · cases h
      · rename_i hlength
        cases h
        exact ⟨bodyOffset, method, path, headers, hparse, rfl, Nat.not_lt.mp hlength⟩

theorem nextRequest_stable (lawful : Lawful env.httparse) : Stable (nextRequest env) where
  used_pos h := by
    obtain ⟨_, _, _, _, hparse, rfl, -⟩ := nextRequest_output h
    have hpos := (lawful.bodyOffset_le hparse).1
    omega
  used_le h := by
    obtain ⟨_, _, _, _, -, -, hle⟩ := nextRequest_output h
    exact hle
  extend {_ stream _ _ _} more h := by
    obtain ⟨bodyOffset, _, _, _, hparse, rfl, hle⟩ := nextRequest_output h
    have hdrop : bodyOffset ≤ stream.length := (lawful.bodyOffset_le hparse).2
    simp only [nextRequest, hparse] at h
    simp only [nextRequest, lawful.parse_append hparse more, List.drop_append_of_le_length hdrop]
    split at h
    · cases h
    · rename_i hbody
      rw [if_neg hbody, if_neg (by rw [List.length_append]; omega), List.take_append_of_le_length]
      · rw [if_neg (Nat.not_lt.mpr hle)] at h
        exact h
      · rw [List.length_drop]
        omega

variable (env) in
/-- The parser behind a complete head. -/
def HttpRequest.headed (method path : Option String) (headers : List (String × List UInt8))
    (buffer : List UInt8) : HttpRequest :=
  { HttpRequest.new with
    method := method
    url := path
    headers := HttpRequest.insertHeaders env ∅ headers
    contentLength := contentLengthOf (HttpRequest.insertHeaders env ∅ headers)
    headersComplete := true
    buffer := buffer }

variable (env) in
/-- The parser was fed the bytes `data` since it was made. -/
inductive Fed : HttpRequest → (data : List UInt8) → Prop
  | heading {data : List UInt8} (incomplete : env.httparse (parseBuf data) = .incomplete) :
      Fed { HttpRequest.new with buffer := data } data
  | body {data : List UInt8} {bodyOffset : ℕ} {method path : Option String}
      {headers : List (String × List UInt8)}
      (head : env.httparse (parseBuf data) = .complete bodyOffset method path headers)
      (fits : (contentLengthOf (HttpRequest.insertHeaders env ∅ headers)).getD 0 ≤ MAX_BODY_BYTES) :
      Fed (HttpRequest.headed env method path headers (data.drop bodyOffset)).tryCompleteBody data

theorem HttpRequest.tryCompleteBody_cases (request : HttpRequest) :
    (request.contentLength.getD 0 ≤ request.buffer.length ∧
      request.tryCompleteBody = { request with
        body := if 0 < request.contentLength.getD 0 then
            some (request.buffer.take (request.contentLength.getD 0)) else request.body
        complete := true }) ∨
    (request.buffer.length < request.contentLength.getD 0 ∧ request.tryCompleteBody = request) := by
  rw [tryCompleteBody]
  split
  · rename_i henough
    exact .inl ⟨henough, rfl⟩
  · rename_i hmissing
    exact .inr ⟨Nat.not_le.mp hmissing, rfl⟩

namespace Fed

variable {request : HttpRequest} {data : List UInt8}

theorem new (lawful : Lawful env.httparse) : Fed env HttpRequest.new [] :=
  .heading lawful.empty

/-- More bytes arrive at a parser that waits for them. -/
theorem addData (lawful : Lawful env.httparse) (h : Fed env request data)
    (open_ : request.complete = false) {more : List UInt8} {fed : HttpRequest}
    (taken : request.addData env more = (fed, .ok ())) : Fed env fed (data ++ more) := by
  rw [HttpRequest.addData, if_neg (by rw [open_]; decide)] at taken
  cases h with
  | heading incomplete =>
    simp only [HttpRequest.new, Bool.false_eq_true, if_false] at taken
    split at taken
    · cases taken
    · simp only [HttpRequest.tryParseHeaders] at taken
      cases hparse : env.httparse (parseBuf (data ++ more)) with
      | incomplete =>
        simp only [hparse, Bool.false_eq_true, if_false] at taken
        cases taken
        exact .heading hparse
      | failed error =>
        simp only [hparse] at taken
        cases taken
      | complete bodyOffset method path headers =>
        simp only [hparse] at taken
        split at taken
        · rename_i hbody
          split at hbody
          · cases hbody
            cases taken
          · cases hbody
        · rename_i hbody
          split at hbody
          · cases hbody
          · rename_i hfits
            cases hbody
            cases taken
            exact .body hparse (Nat.not_lt.mp hfits)
  | @body _ bodyOffset method path headers head fits =>
    obtain ⟨-, hcomplete⟩ | ⟨-, hwaits⟩ :=
      (HttpRequest.headed env method path headers (data.drop bodyOffset)).tryCompleteBody_cases
    · rw [hcomplete] at open_
      cases open_
    · rw [hwaits] at taken
      cases taken
      have hbuffer : data.drop bodyOffset ++ more = (data ++ more).drop bodyOffset :=
        (List.drop_append_of_le_length (lawful.bodyOffset_le head).2).symm
      change Fed env (HttpRequest.headed env method path headers
        (data.drop bodyOffset ++ more)).tryCompleteBody (data ++ more)
      rw [hbuffer]
      exact .body (lawful.parse_append head more) fits

/-- Only the head can be refused. -/
theorem refused (h : Fed env request data) {more : List UInt8} {fed : HttpRequest}
    {error : ProtocolError} (taken : request.addData env more = (fed, .error error)) :
    Refused env (data ++ more) := by
  rw [HttpRequest.addData] at taken
  cases h with
  | heading incomplete =>
    simp only [HttpRequest.new, Bool.false_eq_true, if_false] at taken
    split at taken
    · rename_i hlong
      exact .inl hlong
    · refine .inr ?_
      simp only [HttpRequest.tryParseHeaders] at taken
      cases hparse : env.httparse (parseBuf (data ++ more)) with
      | incomplete =>
        simp only [hparse] at taken
        cases taken
      | failed error => simp only [nextRequest, hparse]
      | complete bodyOffset method path headers =>
        simp only [hparse] at taken
        split at taken
        · rename_i hbody
          split at hbody
          · rename_i hlarge
            simp only [nextRequest, hparse]
            exact if_pos hlarge
          · cases hbody
        · cases taken
  | @body _ bodyOffset method path headers head fits =>
    obtain ⟨-, hcomplete⟩ | ⟨-, hwaits⟩ :=
      (HttpRequest.headed env method path headers (data.drop bodyOffset)).tryCompleteBody_cases
    · rw [hcomplete] at taken
      cases taken
    · rw [hwaits] at taken
      cases taken

/-- A parser that still waits: the stream holds no whole request. -/
theorem more (lawful : Lawful env.httparse) (h : Fed env request data)
    (waits : request.complete = false) : nextRequest env () data = .more := by
  cases h with
  | heading incomplete => simp only [nextRequest, incomplete]
  | @body _ bodyOffset method path headers head fits =>
    obtain ⟨-, hcomplete⟩ | ⟨hmissing, -⟩ :=
      (HttpRequest.headed env method path headers (data.drop bodyOffset)).tryCompleteBody_cases
    · rw [hcomplete] at waits
      cases waits
    · have hoffset := (lawful.bodyOffset_le head).2
      simp only [HttpRequest.headed, List.length_drop] at hmissing
      simp only [nextRequest, head]
      rw [if_neg (Nat.not_lt.mpr fits), if_pos (by omega)]

/-- A complete parser holds the first request of the stream, and the leftover is the rest. -/
theorem output (lawful : Lawful env.httparse) (h : Fed env request data)
    (done : request.complete = true) :
    ∃ used, nextRequest env () data = .output request.view used () ∧
      request.takeLeftover = data.drop used := by
  cases h with
  | heading incomplete => cases done
  | @body _ bodyOffset method path headers head fits =>
    obtain ⟨henough, hcomplete⟩ | ⟨-, hwaits⟩ :=
      (HttpRequest.headed env method path headers (data.drop bodyOffset)).tryCompleteBody_cases
    · have hoffset := (lawful.bodyOffset_le head).2
      rw [hcomplete]
      simp only [HttpRequest.headed, List.length_drop] at henough
      refine ⟨bodyOffset + (contentLengthOf (HttpRequest.insertHeaders env ∅ headers)).getD 0,
        ?_, ?_⟩
      · simp only [nextRequest, head]
        rw [if_neg (Nat.not_lt.mpr fits), if_neg (by omega)]
        rfl
      · simp only [HttpRequest.takeLeftover, HttpRequest.headed, Bool.true_and, decide_eq_true_eq,
          List.length_drop, List.drop_drop]
        split
        · rfl
        · exact (List.drop_eq_nil_of_le (by omega)).symm
    · rw [hwaits] at done
      cases done

end Fed

end AirSonos.Rtsp
