import AirSonos.Bridge.Worker
import AirSonos.Lib.TransitionSystem

/-!
# A zone worker and its Sonos room

The worker is told by replies alone what happened to its requests. `Ok` means that a request
took effect and a SOAP fault that it did not; after a timeout, or any other error raised while
the response is read, it may have. The room may answer every request with every reply.
-/

namespace AirSonos

def Reply.isFault : Reply → Bool
  | .error (.sonos (.fault _ _)) => true
  | _ => false

/-- The request may have had this effect when `reply` is what the worker is told. -/
def Reply.tells (reply : Reply) (effect : Bool) : Bool :=
  (reply.isErr || effect) && !(reply.isFault && effect)

namespace TransportRequest

/-- The requests that are meant for a room outside any group. -/
def needsOwnRoom : TransportRequest → Bool
  | stop => true
  | play _ => true
  | setAvTransportUri _ => true
  | becomeStandalone => false
  | joinGroup _ => false

def isJoin : TransportRequest → Bool
  | joinGroup _ => true
  | _ => false

end TransportRequest

/-- The worker with its room. `member` says that a Join of this worker took effect and no later
leave did. -/
structure SonosRoom where
  worker : ZoneWorker
  member : Bool

inductive RoomLabel
  | command (command : TransportCommand)
  | shutdown
  | take (now : Instant)
  | reply (now : Instant) (reply : Reply) (effect : Bool)
  | supersede
  | ready
  | release

namespace SonosRoom

/-- The request in flight. -/
def request (room : SonosRoom) : Option TransportRequest :=
  room.worker.running.bind TransportTask.request

/-- Whether the room is a member once the request took effect or did not. -/
def memberAfter (room : SonosRoom) (request : TransportRequest) (effect : Bool) : Bool :=
  match request, effect with
  | .joinGroup _, true => true
  | .becomeStandalone, true => false
  | _, _ => room.member

def withWorker (room : SonosRoom) (worker : ZoneWorker) : SonosRoom :=
  { room with worker := worker }

/-- The end of the join wait is up to the other rooms of the cohort. -/
def step (room : SonosRoom) : RoomLabel → Option SonosRoom
  | .command command =>
    if room.worker.closed then none else some (room.withWorker (room.worker.sendCommand command))
  | .shutdown => some (room.withWorker room.worker.shutdown)
  | .take now => (room.worker.take now).map room.withWorker
  | .reply now reply effect =>
    match room.request with
    | none => none
    | some request =>
      if reply.tells effect then
        (room.worker.reply now reply).map fun (worker, _) =>
          ⟨worker, room.memberAfter request effect⟩
      else none
  | .supersede => room.worker.supersede.map room.withWorker
  | .ready => room.worker.ready.map fun (worker, _) => room.withWorker worker
  | .release =>
    match room.worker.running with
    | some (.groupWait stream joins delay _) =>
      some (room.withWorker (room.worker.goto (.groupPlay stream joins delay)))
    | _ => none

/-- The request before the one in flight was a leave. -/
def LeftBefore (room : SonosRoom) : Prop :=
  ∃ exchange rest, room.worker.exchanges = exchange :: rest ∧
    exchange.request = .becomeStandalone

/-- A request that needs its own room is sent to a member only right after a leave attempt. -/
def LeavesFirst (room : SonosRoom) : Prop :=
  ∀ request, room.request = some request → request.needsOwnRoom = true →
    room.member = true → room.LeftBefore

/-- A Join that ends with an error other than a timeout leaves the room outside any group. -/
def JoinTold (room : SonosRoom) : RoomLabel → Prop
  | .reply _ reply effect => ∀ request, room.request = some request → request.isJoin = true →
      reply.isErr = true → reply.isTimeout = false → room.memberAfter request effect = false
  | _ => True

/-- A member rejects the Play of its own stream. -/
def PlayRejected (room : SonosRoom) : RoomLabel → Prop
  | .reply _ reply _ => ∀ stream, room.worker.running = some (.play stream) →
      room.member = true → reply.isErr = true
  | _ => True

/-- A member rejects the Stop barrier of Prepare. -/
def StopRejected (room : SonosRoom) : RoomLabel → Prop
  | .reply _ reply _ => ∀ start, room.worker.running = some (.prepareStop start) →
      room.member = true → reply.isErr = true
  | _ => True

/-- The join wait of PlayGroup does not end in a member. -/
def WaitsAlone (room : SonosRoom) : RoomLabel → Prop
  | .release => room.member = false
  | _ => True

/-- The replies tell whether the room is a member. -/
def Told (room : SonosRoom) (label : RoomLabel) : Prop :=
  room.JoinTold label ∧ room.PlayRejected label

/-- Also nothing lets a member go on without a leave. -/
def Barred (room : SonosRoom) (label : RoomLabel) : Prop :=
  room.Told label ∧ room.StopRejected label ∧ room.WaitsAlone label

end SonosRoom

def sonosRoom (zone : SonosZone) : TransitionSystem SonosRoom RoomLabel where
  init := ⟨.new (.sonos zone), false⟩
  step := SonosRoom.step

namespace SonosRoom

variable {room room' : SonosRoom} {label : RoomLabel} {now : Instant} {command : TransportCommand}

/-! ### What each step does to the flag -/

structure Tracked (zone : SonosZone) (room : SonosRoom) : Prop where
  renderer : room.worker.renderer = .sonos zone
  joined : room.member = true → room.worker.joined = true

/-- A worker of a Sonos room takes a command without a request of its own, or leaves first. -/
theorem take_sonos {worker worker' : ZoneWorker} (sonos : worker.renderer.isSonos = true)
    (took : worker.take now = some worker') :
    ∃ command task, worker' = { worker with slot := none, running := some task } ∧
      (task = .leave command ∨
        task = .enter now command ∧ (worker.joined = false ∨
          (TransportTask.enter now command).request.all (fun request => !request.needsOwnRoom) =
            true)) := by
  unfold ZoneWorker.take at took
  split at took
  · next command hrunning hslot =>
    cases took
    unfold ZoneWorker.begin
    cases command with
    | playGroup stream joins delay => exact ⟨.playGroup stream joins delay, _, rfl, .inr ⟨rfl, .inr rfl⟩⟩
    | join stream coordinator joins =>
      exact ⟨.join stream coordinator joins, _, rfl, .inr ⟨rfl, .inr rfl⟩⟩
    | _ =>
      cases hjoined : worker.joined with
      | true =>
        rw [if_pos rfl, if_pos sonos]
        exact ⟨_, _, rfl, .inl rfl⟩
      | false => exact ⟨_, _, rfl, .inr ⟨rfl, .inl rfl⟩⟩
  · cases took

theorem member_of_memberAfter (request : TransportRequest) (effect : Bool)
    (notJoin : request.isJoin = false) (after : room.memberAfter request effect = true) :
    room.member = true := by
  cases request with
  | joinGroup coordinator => cases notJoin
  | becomeStandalone =>
    cases effect with
    | true => exact absurd after Bool.false_ne_true
    | false => exact after
  | _ => cases effect <;> exact after

theorem effect_of_tells {reply : Reply} {effect : Bool} (answered : reply.tells effect = true)
    (ok : reply.isErr = false) : effect = true := by
  cases effect with
  | true => rfl
  | false => simp [Reply.tells, ok] at answered

namespace Tracked

variable {zone : SonosZone}

theorem isSonos (h : Tracked zone room) : room.worker.renderer.isSonos = true := by
  rw [h.renderer]
  rfl

/-- The flag follows the reply to the request of the running task. -/
theorem reply {reply : Reply} {effect : Bool} {worker' : ZoneWorker}
    {outputs : List WorkerOutput} {request : TransportRequest} (h : Tracked zone room)
    (told : room.Told (.reply now reply effect)) (hrequest : room.request = some request)
    (answered : reply.tells effect = true)
    (replied : room.worker.reply now reply = some (worker', outputs)) :
    Tracked zone ⟨worker', room.memberAfter request effect⟩ := by
  obtain ⟨task, hrunning, htask⟩ := Option.bind_eq_some_iff.mp hrequest
  simp only [ZoneWorker.reply, hrunning, htask, Option.some.injEq] at replied
  have hkeeps (notJoin : request.isJoin = false)
      (after : room.memberAfter request effect = true) : room.worker.joined = true :=
    h.joined (member_of_memberAfter request effect notJoin after)
  cases task with
  | leave next =>
    cases htask
    cases replied
    refine ⟨h.renderer, fun after => ?_⟩
    cases hreply : reply.isErr with
    | true => rfl
    | false =>
      rw [effect_of_tells answered hreply] at after
      exact absurd after Bool.false_ne_true
  | prepareStandalone start =>
    cases htask
    cases reply <;> cases replied <;> exact ⟨h.renderer, hkeeps rfl⟩
  | prepareStop start =>
    cases htask
    cases reply with
    | ok =>
      simp only [ZoneWorker.resume] at replied
      split at replied <;> cases replied <;> exact ⟨h.renderer, hkeeps rfl⟩
    | error error =>
      cases replied
      exact ⟨h.renderer, hkeeps rfl⟩
  | prepareSetUri start =>
    cases htask
    cases reply with
    | ok =>
      simp only [ZoneWorker.resume] at replied
      split at replied <;> cases replied <;> exact ⟨h.renderer, hkeeps rfl⟩
    | error error =>
      cases replied
      exact ⟨h.renderer, hkeeps rfl⟩
  | prepareReady start => cases htask
  | play stream =>
    cases htask
    cases replied
    refine ⟨h.renderer, fun after => ?_⟩
    have hmember : room.member = true :=
      member_of_memberAfter (.play stream.liveStream.session.localUrl) effect rfl after
    exact Bool.and_eq_true_iff.mpr ⟨h.joined hmember, told.2 stream hrunning hmember⟩
  | groupWait stream joins delay since => cases htask
  | groupPlay stream joins delay =>
    cases htask
    cases replied
    exact ⟨h.renderer, hkeeps rfl⟩
  | join stream coordinator joins =>
    cases htask
    cases replied
    refine ⟨h.renderer, fun after => ?_⟩
    -- A member after an error can only be one after a timeout.
    cases herr : reply.isErr with
    | false => rfl
    | true =>
      cases htimeout : reply.isTimeout with
      | true => rfl
      | false =>
        have houtside := told.1 _ hrequest rfl herr htimeout
        rw [houtside] at after
        cases after
  | stop sessionId zoneId generation =>
    cases htask
    cases replied
    exact ⟨h.renderer, hkeeps rfl⟩

theorem step (h : Tracked zone room) (told : room.Told label)
    (taken : room.step label = some room') : Tracked zone room' := by
  cases label with
  | command command =>
    simp only [SonosRoom.step] at taken
    split at taken
    · cases taken
    · cases taken
      exact ⟨h.renderer, h.joined⟩
  | shutdown =>
    cases taken
    exact ⟨h.renderer, h.joined⟩
  | take now =>
    obtain ⟨worker', took, rfl⟩ := Option.map_eq_some_iff.mp taken
    obtain ⟨command, task, rfl, -⟩ := take_sonos h.isSonos took
    exact ⟨h.renderer, h.joined⟩
  | reply now reply effect =>
    simp only [SonosRoom.step] at taken
    split at taken
    · cases taken
    · next request hrequest =>
      split at taken
      · next answered =>
        obtain ⟨⟨worker', outputs⟩, replied, rfl⟩ := Option.map_eq_some_iff.mp taken
        exact h.reply told hrequest answered replied
      · cases taken
  | supersede =>
    obtain ⟨worker', superseded, rfl⟩ := Option.map_eq_some_iff.mp taken
    obtain ⟨task, -, -, -, rfl⟩ := ZoneWorker.supersede_spec superseded
    exact ⟨h.renderer, h.joined⟩
  | ready =>
    obtain ⟨⟨worker', prepared⟩, ready, rfl⟩ := Option.map_eq_some_iff.mp taken
    obtain ⟨start, -, -, rfl⟩ := ZoneWorker.ready_spec ready
    exact ⟨h.renderer, h.joined⟩
  | release =>
    simp only [SonosRoom.step] at taken
    split at taken
    · cases taken
      exact ⟨h.renderer, h.joined⟩
    · cases taken

end Tracked

/-! ### What each step does to the request in flight -/

namespace LeavesFirst

theorem nothing (idle : room.request = none) : room.LeavesFirst :=
  fun request hrequest => by
    rw [idle] at hrequest
    cases hrequest

theorem outside (alone : room.member = false) : room.LeavesFirst :=
  fun request _ _ member => by
    rw [alone] at member
    cases member

theorem rejectsNothing
    (h : room.request.all (fun request => !request.needsOwnRoom) = true) : room.LeavesFirst :=
  fun request hrequest own => by
    rw [hrequest, Option.all_some, own] at h
    cases h

/-- The reply to the request of the running task leads to the next request. -/
theorem reply {reply : Reply} {effect : Bool} {worker' : ZoneWorker}
    {outputs : List WorkerOutput} {request : TransportRequest}
    (rejected : room.StopRejected (.reply now reply effect))
    (hrequest : room.request = some request)
    (replied : room.worker.reply now reply = some (worker', outputs)) :
    LeavesFirst ⟨worker', room.memberAfter request effect⟩ := by
  obtain ⟨task, hrunning, htask⟩ := Option.bind_eq_some_iff.mp hrequest
  simp only [ZoneWorker.reply, hrunning, htask, Option.some.injEq] at replied
  cases task with
  | leave next =>
    cases htask
    cases replied
    exact fun _ _ _ _ => ⟨_, _, rfl, rfl⟩
  | prepareStandalone start =>
    cases htask
    cases reply with
    | ok =>
      cases replied
      exact fun _ _ _ _ => ⟨_, _, rfl, rfl⟩
    | error error =>
      cases replied
      exact .nothing rfl
  | prepareStop start =>
    cases htask
    cases reply with
    | ok =>
      simp only [ZoneWorker.resume] at replied
      split at replied
      · cases replied
        exact .nothing rfl
      · cases replied
        -- The Stop barrier let the room through, so it is no member.
        refine .outside (Bool.eq_false_iff.mpr fun after => ?_)
        cases rejected start hrunning (member_of_memberAfter .stop effect rfl after)
    | error error =>
      cases replied
      exact .nothing rfl
  | prepareSetUri start =>
    cases htask
    cases reply with
    | ok =>
      simp only [ZoneWorker.resume] at replied
      split at replied <;> cases replied <;> exact .nothing rfl
    | error error =>
      cases replied
      exact .nothing rfl
  | prepareReady start => cases htask
  | groupWait stream joins delay since => cases htask
  | _ =>
    cases htask
    cases replied
    exact .nothing rfl

theorem step {zone : SonosZone} (h : room.LeavesFirst) (tracked : Tracked zone room)
    (rejected : room.StopRejected label) (alone : room.WaitsAlone label)
    (taken : room.step label = some room') : room'.LeavesFirst := by
  cases label with
  | command command =>
    simp only [SonosRoom.step] at taken
    split at taken
    · cases taken
    · cases taken
      exact h
  | shutdown =>
    cases taken
    exact h
  | take now =>
    obtain ⟨worker', took, rfl⟩ := Option.map_eq_some_iff.mp taken
    obtain ⟨command, task, rfl, rfl | ⟨rfl, hjoined | hnone⟩⟩ := take_sonos tracked.isSonos took
    · exact .rejectsNothing rfl
    · refine .outside (Bool.eq_false_iff.mpr fun (member : room.member = true) => ?_)
      rw [tracked.joined member] at hjoined
      cases hjoined
    · exact .rejectsNothing hnone
  | reply now reply effect =>
    simp only [SonosRoom.step] at taken
    split at taken
    · cases taken
    · next request hrequest =>
      split at taken
      · obtain ⟨⟨worker', outputs⟩, replied, rfl⟩ := Option.map_eq_some_iff.mp taken
        exact .reply rejected hrequest replied
      · cases taken
  | supersede =>
    obtain ⟨worker', superseded, rfl⟩ := Option.map_eq_some_iff.mp taken
    obtain ⟨task, -, -, -, rfl⟩ := ZoneWorker.supersede_spec superseded
    exact .nothing rfl
  | ready =>
    obtain ⟨⟨worker', prepared⟩, ready, rfl⟩ := Option.map_eq_some_iff.mp taken
    obtain ⟨start, -, -, rfl⟩ := ZoneWorker.ready_spec ready
    exact .nothing rfl
  | release =>
    simp only [SonosRoom.step] at taken
    split at taken
    · cases taken
      exact .outside alone
    · cases taken

end LeavesFirst

end SonosRoom

open SonosRoom TransitionSystem

theorem tracked_of_reachable {zone : SonosZone} {room : SonosRoom}
    (h : (sonosRoom zone).ReachableWhen Told room) : Tracked zone room :=
  h.invariant ⟨rfl, nofun⟩ fun _ _ _ tracked told taken => tracked.step told taken

/-- While no Join ends with an error other than a timeout in a member and no member accepts Play,
`joined` is set in every member. While also no Stop barrier lets a member through and no join wait
ends in one, a member is left before every request that needs its own room. -/
theorem member_left_first (zone : SonosZone) :
    (∀ room, (sonosRoom zone).ReachableWhen Told room →
      room.member = true → room.worker.joined = true) ∧
    ∀ room, (sonosRoom zone).ReachableWhen Barred room → room.LeavesFirst := by
  refine ⟨fun room h => (tracked_of_reachable h).joined, fun room h => ?_⟩
  exact h.invariant_with (fun room h => tracked_of_reachable (h.mono fun _ _ guarded => guarded.1))
    (.nothing rfl) fun _ _ _ tracked leaves guarded taken =>
      leaves.step tracked guarded.2.1 guarded.2.2 taken

/-- The Kitchen joins, its leave times out without effect, and Stop is in flight. -/
theorem kitchen_left_first :
    ∃ room, (sonosRoom (Household.sonos (Household.room 0))).run
        ⟨.new (.sonos (Household.sonos (Household.room 0))), false⟩
        [.command (.join (Household.prepared 0 1) "Office" ⟨0⟩), .take 0, .reply 0 (.ok ()) true,
          .command (.stop ⟨0⟩ (Household.room 0) 2), .take 0,
          .reply 0 (.error (.sonos (.http ⟨true, false, false, none⟩))) false] = some room ∧
      room.member = true ∧ room.worker.joined = true ∧ room.request = some .stop ∧
      room.LeavesFirst := by
  have both := member_left_first (Household.sonos (Household.room 0))
  have allowed : (sonosRoom (Household.sonos (Household.room 0))).Allowed Barred
      ⟨.new (.sonos (Household.sonos (Household.room 0))), false⟩
      [.command (.join (Household.prepared 0 1) "Office" ⟨0⟩), .take 0, .reply 0 (.ok ()) true,
        .command (.stop ⟨0⟩ (Household.room 0) 2), .take 0,
        .reply 0 (.error (.sonos (.http ⟨true, false, false, none⟩))) false] := by
    have hquiet {room : SonosRoom} :
        room.Barred (.command (.join (Household.prepared 0 1) "Office" ⟨0⟩)) ∧
          room.Barred (.take 0) ∧ room.Barred (.command (.stop ⟨0⟩ (Household.room 0) 2)) :=
      ⟨⟨⟨trivial, trivial⟩, trivial, trivial⟩, ⟨⟨trivial, trivial⟩, trivial, trivial⟩,
        ⟨⟨trivial, trivial⟩, trivial, trivial⟩⟩
    refine ⟨hquiet.1, fun _ h => ?_⟩
    cases h
    refine ⟨hquiet.2.1, fun _ h => ?_⟩
    cases h
    refine ⟨⟨⟨fun _ _ _ err => ?_, fun _ play => ?_⟩, fun _ stop => ?_, trivial⟩, fun _ h => ?_⟩
    · cases err
    · cases play
    · cases stop
    cases h
    refine ⟨hquiet.2.2, fun _ h => ?_⟩
    cases h
    refine ⟨hquiet.2.1, fun _ h => ?_⟩
    cases h
    refine ⟨⟨⟨fun _ hrequest join => ?_, fun _ play => ?_⟩, fun _ stop => ?_, trivial⟩,
      fun _ _ => trivial⟩
    · cases hrequest
      cases join
    · cases play
    · cases stop
  have reached := TransitionSystem.ReachableWhen.of_run .init allowed rfl
  exact ⟨_, rfl, rfl, both.1 _ (reached.mono fun _ _ h => h.1) rfl, rfl, both.2 _ reached⟩

/-- The Kitchen joins and the connection breaks while the response is read: Stop is sent to the
member. Or the Kitchen joins and is told to PlayGroup: Play is sent to the member. -/
theorem member_not_left_first :
    (∃ room, (sonosRoom (Household.sonos (Household.room 0))).run
        ⟨.new (.sonos (Household.sonos (Household.room 0))), false⟩
        [.command (.join (Household.prepared 0 1) "Office" ⟨0⟩), .take 0,
          .reply 0 (.error (.sonos (.http ⟨false, false, true, none⟩))) true,
          .command (.stop ⟨0⟩ (Household.room 0) 2), .take 0] = some room ∧
      room.member = true ∧ room.worker.joined = false ∧ ¬room.LeavesFirst) ∧
    ∃ room, (sonosRoom (Household.sonos (Household.room 0))).run
        ⟨.new (.sonos (Household.sonos (Household.room 0))), false⟩
        [.command (.join (Household.prepared 0 1) "Office" ⟨0⟩), .take 0, .reply 0 (.ok ()) true,
          .command (.playGroup (Household.prepared 0 1) ⟨0⟩ none), .take 0, .release] = some room ∧
      room.member = true ∧ ¬room.LeavesFirst := by
  constructor
  · refine ⟨_, rfl, rfl, rfl, fun h => ?_⟩
    obtain ⟨exchange, rest, hexchanges, hleave⟩ := h .stop rfl rfl rfl
    cases hexchanges
    cases hleave
  · refine ⟨_, rfl, rfl, fun h => ?_⟩
    obtain ⟨exchange, rest, hexchanges, hleave⟩ := h (.play _) rfl rfl rfl
    cases hexchanges
    cases hleave

end AirSonos
