import AirSonos.Lib.AssocMap
import AirSonos.Lib.TransitionSystem
import AirSonos.Raop.BufferedAudio

/-!
# The shared controller session

All connections of a server share one session: its owner, the connection that feeds it, and the
media task with the channel to it. A connection holds the lock of the session while it decides
and while it acts, but other connections get in between the two. The nonce of a connection is
random, and no two connections have the same.
-/

namespace AirSonos.Rtsp

open Raop (PlayoutCommand)

@[ext]
structure ControllerSession where
  owner : Option String
  ownerConnection : Option String
  mediaAbort : Option ℕ
  playout : Option ℕ
deriving DecidableEq

namespace ControllerSession

def vacant : ControllerSession :=
  ⟨none, none, none, none⟩

def permits (session : ControllerSession) (authenticated : Bool) (controller : Option String) :
    Bool :=
  match session.owner with
  | none => true
  | some owner => authenticated && controller = some owner

end ControllerSession

/-- `setup` is the request that claims the session. A legacy `SETUP` starts a stream of its own
connection without a claim, and is not among these. -/
inductive Action
  | setup
  | command (command : PlayoutCommand)
  | teardown
  | other

/-- `handling` is between the lock of the dispatch and the handler, `releasing` before the lock
of a teardown. -/
inductive Phase
  | idle
  | handling (action : Action)
  | releasing
  | closing
  | shut

abbrev RtspStatus := UInt16 × String

structure RaopConnection where
  controllerId : Option String
  hasSharedSecret : Bool
  hasOwnedAudio : Bool
  playoutCmd : Option ℕ
  phase : Phase
  response : Option RtspStatus

/-- Who acts on a media task. -/
structure Actor where
  connection : String
  authenticated : Bool
  controller : Option String
  ownedAudio : Bool
deriving DecidableEq

namespace RaopConnection

def new : RaopConnection :=
  ⟨none, false, false, none, .idle, none⟩

def ap2Authenticated (conn : RaopConnection) : Bool :=
  conn.hasSharedSecret && conn.controllerId.isSome

def actor (conn : RaopConnection) (nonce : String) : Actor :=
  ⟨nonce, conn.ap2Authenticated, conn.controllerId, conn.hasOwnedAudio⟩

/-- The response is complete and the next request may come. -/
def answer (conn : RaopConnection) (response : RtspStatus) : RaopConnection :=
  { conn with phase := .idle, response := some response }

end RaopConnection

def OK : RtspStatus := (200, "OK")

def sessionRejection (conn : RaopConnection) (nonce : String) (active : ControllerSession) :
    Option RtspStatus :=
  if conn.hasOwnedAudio ∧ active.ownerConnection ≠ some nonce then some (409, "Stale Session")
  else if active.permits conn.ap2Authenticated conn.controllerId then none
  else some (403, "Forbidden")

/-- The stream of a connection that claimed the session. `aborted` names who aborted the task; a
closed task has dropped its receiver. The queue and `received` keep the sender of each command. -/
structure MediaTask where
  connection : String
  controller : Option String
  aborted : Option Actor
  closed : Bool
  queue : List (Actor × PlayoutCommand)
  received : List (Actor × PlayoutCommand)

namespace MediaTask

def start (connection : String) (controller : Option String) : MediaTask :=
  ⟨connection, controller, none, false, [], []⟩

def live (task : MediaTask) : Bool :=
  task.aborted.isNone && !task.closed

def abort (by_ : Actor) (task : MediaTask) : MediaTask :=
  if task.live then { task with aborted := some by_ } else task

def abortOf (by_ : Actor) (task : MediaTask) : MediaTask :=
  if task.connection = by_.connection then task.abort by_ else task

def close (task : MediaTask) : MediaTask :=
  { task with closed := true, queue := [] }

def recv (task : MediaTask) : MediaTask :=
  match task.queue with
  | [] => task
  | entry :: queue => { task with queue := queue, received := task.received ++ [entry] }

end MediaTask

def COMMAND_CAPACITY : ℕ := 64

/-- The answer to a command, and the task behind it. -/
def trySend (sender : Actor) (command : PlayoutCommand) (task : MediaTask) :
    RtspStatus × MediaTask :=
  if task.closed then ((454, "Session Not Found"), task)
  else if COMMAND_CAPACITY ≤ task.queue.length then ((503, "Control Queue Full"), task)
  else (OK, { task with queue := task.queue ++ [(sender, command)] })

inductive Pairing
  | transient
  | verified (client : String)

def Pairing.controllerId (nonce : String) : Pairing → String
  | .transient => "transient:" ++ nonce
  | .verified client => client

structure Server where
  session : ControllerSession
  connections : AssocMap String RaopConnection
  tasks : AssocMap ℕ MediaTask
  nextTask : ℕ
  nonces : List String

/-- `legacy` says that the request carries valid digest credentials; `fails` is a handler that
ends before it takes the lock. -/
inductive ServerLabel
  | connect (nonce : String)
  | pair (nonce : String) (pairing : Pairing)
  | dispatch (nonce : String) (action : Action) (legacy : Bool)
  | fails (nonce : String) (response : RtspStatus)
  | claim (nonce : String)
  | send (nonce : String)
  | abortOwn (nonce : String)
  | release (nonce : String)
  | shutdown (nonce : String)
  | drop (nonce : String)
  | recv (task : ℕ)
  | ends (task : ℕ)

namespace Server

def init : Server :=
  ⟨.vacant, ∅, ∅, 0, []⟩

def setConnection (st : Server) (nonce : String) (conn : RaopConnection) : Server :=
  { st with connections := st.connections.insert nonce conn }

/-- The tasks that a connection has started are all its audio tasks. -/
def abortOwn (st : Server) (conn : RaopConnection) (nonce : String) : Server :=
  { st with tasks := AssocMap.mapValues (MediaTask.abortOf (conn.actor nonce)) st.tasks }

def abortMedia (st : Server) (by_ : Actor) : Server :=
  match st.session.mediaAbort with
  | none => st
  | some media => { st with tasks := AssocMap.modify media (MediaTask.abort by_) st.tasks }

def vacate (st : Server) : Server :=
  { st with session := .vacant }

def dispatch (st : Server) (conn : RaopConnection) (nonce : String) (action : Action)
    (legacy : Bool) : Server :=
  if conn.ap2Authenticated || legacy then
    match sessionRejection conn nonce st.session with
    | some response => st.setConnection nonce (conn.answer response)
    | none => st.setConnection nonce { conn with
        playoutCmd := if conn.ap2Authenticated then st.session.playout else conn.playoutCmd
        phase := .handling action }
  else st.setConnection nonce (conn.answer (401, "Unauthorized"))

/-- `claim_audio`, under one lock. -/
def claim (st : Server) (conn : RaopConnection) (nonce : String) : Server :=
  match sessionRejection conn nonce st.session with
  | some response => st.setConnection nonce (conn.answer response)
  | none =>
    let aborted := (st.abortOwn conn nonce).abortMedia (conn.actor nonce)
    let media := st.nextTask
    { aborted with
      tasks := aborted.tasks.insert media (.start nonce conn.controllerId)
      nextTask := media + 1
      session := ⟨conn.controllerId, some nonce, some media, some media⟩ }.setConnection nonce
        ({ conn with hasOwnedAudio := true, playoutCmd := some media }.answer OK)

/-- `send_playout_command` -/
def send (st : Server) (conn : RaopConnection) (nonce : String) (command : PlayoutCommand) :
    Server :=
  match conn.playoutCmd with
  | none => st.setConnection nonce (conn.answer (454, "Session Not Found"))
  | some media =>
    match st.tasks.lookup media with
    | none => st.setConnection nonce (conn.answer (454, "Session Not Found"))
    | some task =>
      let (response, task) := trySend (conn.actor nonce) command task
      { st with tasks := st.tasks.insert media task }.setConnection nonce (conn.answer response)

/-- The locked part of a teardown. -/
def release (st : Server) (conn : RaopConnection) (nonce : String) : Server :=
  let closing := { conn with phase := .closing, response := some OK }
  match sessionRejection conn nonce st.session with
  | some _ => st.setConnection nonce closing
  | none => ((st.abortMedia (conn.actor nonce)).vacate).setConnection nonce closing

def stopMedia (st : Server) (by_ : Actor) : Server :=
  match st.session.playout with
  | none => st
  | some media =>
    { st with tasks := AssocMap.modify media (fun task => (trySend by_ .stop task).2) st.tasks }

/-- The connection handler is dropped, and then its audio tasks. -/
def drop (st : Server) (conn : RaopConnection) (nonce : String) : Server :=
  let left :=
    if st.session.ownerConnection = some nonce then
      ((st.stopMedia (conn.actor nonce)).abortMedia (conn.actor nonce)).vacate
    else st
  { left.abortOwn conn nonce with connections := left.connections.erase nonce }

def step (st : Server) : ServerLabel → Option Server
  | .connect nonce =>
    if nonce ∈ st.nonces then none
    else some { st with
      connections := st.connections.insert nonce .new, nonces := nonce :: st.nonces }
  | .recv media =>
    (st.tasks.lookup media).bind fun task =>
      if task.closed then none
      else some { st with tasks := st.tasks.insert media task.recv }
  | .ends media =>
    (st.tasks.lookup media).map fun task =>
      { st with tasks := st.tasks.insert media task.close }
  | .pair nonce pairing =>
    (st.connections.lookup nonce).bind fun conn =>
      match conn.phase with
      | .idle => some (st.setConnection nonce ({ conn with
          controllerId := some (pairing.controllerId nonce), hasSharedSecret := true }.answer OK))
      | _ => none
  | .dispatch nonce action legacy =>
    (st.connections.lookup nonce).bind fun conn =>
      match conn.phase with
      | .idle => some (st.dispatch conn nonce action legacy)
      | _ => none
  | .fails nonce response =>
    (st.connections.lookup nonce).bind fun conn =>
      match conn.phase with
      | .handling _ => some (st.setConnection nonce (conn.answer response))
      | _ => none
  | .claim nonce =>
    (st.connections.lookup nonce).bind fun conn =>
      match conn.phase with
      | .handling .setup => some (st.claim conn nonce)
      | _ => none
  | .send nonce =>
    (st.connections.lookup nonce).bind fun conn =>
      match conn.phase with
      | .handling (.command command) => some (st.send conn nonce command)
      | _ => none
  | .abortOwn nonce =>
    (st.connections.lookup nonce).bind fun conn =>
      match conn.phase with
      | .handling .teardown =>
        some ((st.abortOwn conn nonce).setConnection nonce { conn with phase := .releasing })
      | _ => none
  | .release nonce =>
    (st.connections.lookup nonce).bind fun conn =>
      match conn.phase with
      | .releasing => some (st.release conn nonce)
      | _ => none
  | .shutdown nonce =>
    (st.connections.lookup nonce).bind fun conn =>
      match conn.phase with
      | .idle | .closing =>
        some ((st.abortOwn conn nonce).setConnection nonce { conn with phase := .shut })
      | _ => none
  | .drop nonce =>
    (st.connections.lookup nonce).bind fun conn =>
      match conn.phase with
      | .idle | .closing | .shut => some (st.drop conn nonce)
      | _ => none

end Server

def serverSystem : TransitionSystem Server ServerLabel where
  init := .init
  step := Server.step

end AirSonos.Rtsp
