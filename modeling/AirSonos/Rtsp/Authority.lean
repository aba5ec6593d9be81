import AirSonos.Rtsp.Ownership

/-!
# Who may touch the stream

At most one media task is alive, and it is the one that the session knows. A task is aborted,
and gets a command, only from the connection that feeds it or, for a connection that never fed
a stream, from the verified controller that the task was started for.
-/

namespace AirSonos.Rtsp

open Raop (PlayoutCommand)

variable {st after : Server} {nonce : String} {conn : RaopConnection}

/-- The feeding connection itself; or the controller of the task on a control connection. A task
without a controller was started with digest credentials. -/
def MediaTask.grants (task : MediaTask) (by_ : Actor) : Prop :=
  by_.connection = task.connection ∨
    (by_.ownedAudio = false ∧
      (task.controller = none ∨ (by_.authenticated = true ∧ by_.controller = task.controller)))

/-- What the sender that a connection keeps allows it. -/
def MediaTask.Holds (task : MediaTask) (nonce : String) (conn : RaopConnection) : Prop :=
  (conn.ap2Authenticated = false → task.connection = nonce) ∧
    ∀ action, conn.phase = .handling action → task.grants (conn.actor nonce)

/-- A task goes on; whoever acts on it is entitled to. -/
structure Evolves (task later : MediaTask) : Prop where
  connection : later.connection = task.connection
  controller : later.controller = task.controller
  live : later.live = true → task.live = true
  aborted : ∀ by_, later.aborted = some by_ → task.aborted = some by_ ∨ task.grants by_
  commands : ∀ entry ∈ later.queue ++ later.received,
    entry ∈ task.queue ++ task.received ∨ task.grants entry.1

namespace Evolves

theorem refl (task : MediaTask) : Evolves task task :=
  ⟨rfl, rfl, id, fun _ => .inl, fun _ => .inl⟩

theorem grants {task later : MediaTask} (h : Evolves task later) {by_ : Actor}
    (granted : task.grants by_) : later.grants by_ := by
  rw [MediaTask.grants, h.connection, h.controller]
  exact granted

theorem holds {task later : MediaTask} (h : Evolves task later) (held : task.Holds nonce conn) :
    later.Holds nonce conn :=
  ⟨fun hlegacy => h.connection.trans (held.1 hlegacy),
    fun action hphase => h.grants (held.2 action hphase)⟩

theorem abort {task : MediaTask} {by_ : Actor} (granted : task.grants by_) :
    Evolves task (task.abort by_) := by
  rw [MediaTask.abort]
  split
  · refine ⟨rfl, rfl, ?_, ?_, fun _ => .inl⟩
    · rintro ⟨⟩
    · rintro _ ⟨⟩
      exact .inr granted
  · exact refl task

theorem abortOf (task : MediaTask) (by_ : Actor) : Evolves task (task.abortOf by_) := by
  rw [MediaTask.abortOf]
  split
  · rename_i hown
    exact abort (.inl hown.symm)
  · exact refl task

theorem trySend {task : MediaTask} {sender : Actor} (granted : task.grants sender)
    (command : PlayoutCommand) : Evolves task (trySend sender command task).2 := by
  rw [Rtsp.trySend]
  split
  · exact refl task
  · split
    · exact refl task
    · refine ⟨rfl, rfl, id, fun _ => .inl, fun entry hmem => ?_⟩
      simp only [List.append_assoc, List.mem_append, List.mem_singleton] at hmem ⊢
      obtain hqueue | rfl | hreceived := hmem
      · exact .inl (.inl hqueue)
      · exact .inr granted
      · exact .inl (.inr hreceived)

theorem recv (task : MediaTask) : Evolves task task.recv := by
  rw [MediaTask.recv]
  split
  · exact refl task
  · rename_i entry queue hqueue
    refine ⟨rfl, rfl, id, fun _ => .inl, fun other hmem => .inl ?_⟩
    rw [hqueue]
    simp only [List.mem_append, List.mem_cons, List.not_mem_nil, or_false] at hmem ⊢
    tauto

theorem close (task : MediaTask) : Evolves task task.close := by
  refine ⟨rfl, rfl, ?_, fun _ => .inl, fun entry hmem => .inl ?_⟩
  · simp [MediaTask.close, MediaTask.live]
  · exact List.mem_append_right _ hmem

end Evolves

theorem MediaTask.abort_dead (by_ : Actor) (task : MediaTask) : (task.abort by_).live = false := by
  rw [abort]
  split
  · rfl
  · exact Bool.of_not_eq_true ‹_›

theorem Server.abortMedia_eq (st : Server) (by_ : Actor) :
    ∃ tasks, st.abortMedia by_ = { st with tasks := tasks } := by
  rw [abortMedia]
  split
  · exact ⟨st.tasks, rfl⟩
  · exact ⟨_, rfl⟩

theorem Server.stopMedia_eq (st : Server) (by_ : Actor) :
    ∃ tasks, st.stopMedia by_ = { st with tasks := tasks } := by
  rw [stopMedia]
  split
  · exact ⟨st.tasks, rfl⟩
  · exact ⟨_, rfl⟩

structure Owned (st : Server) : Prop where
  live : ∀ media task, st.tasks.lookup media = some task → task.live = true →
    st.session.mediaAbort = some media
  registered : ∀ media, st.session.mediaAbort = some media → ∃ task,
    st.tasks.lookup media = some task ∧ st.session.owner = task.controller ∧
      st.session.ownerConnection = some task.connection
  playout : st.session.playout = st.session.mediaAbort
  fresh : ∀ media task, st.tasks.lookup media = some task → media < st.nextTask
  held : ∀ nonce conn media, st.connections.lookup nonce = some conn →
    conn.playoutCmd = some media → ∃ task, st.tasks.lookup media = some task ∧ task.Holds nonce conn
  aborted : ∀ media task by_, st.tasks.lookup media = some task → task.aborted = some by_ →
    task.grants by_
  commands : ∀ media task, st.tasks.lookup media = some task →
    ∀ entry ∈ task.queue ++ task.received, task.grants entry.1

namespace Owned

theorem init : Owned .init :=
  ⟨nofun, nofun, rfl, nofun, nofun, nofun, nofun⟩

theorem setConnection (h : Owned st)
    (held : ∀ media, conn.playoutCmd = some media →
      ∃ task, st.tasks.lookup media = some task ∧ task.Holds nonce conn) :
    Owned (st.setConnection nonce conn) := by
  refine { h with held := fun other found media hfound hmedia => ?_ }
  rw [Server.setConnection, AssocMap.lookup_insert_ite] at hfound
  split at hfound
  · cases hfound
    subst other
    exact held media hmedia
  · exact h.held other found media hfound hmedia

/-- The connection keeps its sender and is not between its locks. -/
theorem settle (h : Owned st) {settled : RaopConnection}
    (found : st.connections.lookup nonce = some conn)
    (playout : settled.playoutCmd = conn.playoutCmd)
    (authenticated : conn.ap2Authenticated = true → settled.ap2Authenticated = true)
    (phase : ∀ action, settled.phase ≠ .handling action) :
    Owned (st.setConnection nonce settled) := by
  refine h.setConnection fun media hmedia => ?_
  obtain ⟨task, hlookup, hlegacy, -⟩ := h.held nonce conn media found (playout ▸ hmedia)
  refine ⟨task, hlookup, fun hnot => hlegacy ?_, fun action hphase => absurd hphase (phase action)⟩
  apply Bool.of_not_eq_true
  intro hauth
  rw [authenticated hauth] at hnot
  cases hnot

/-- Every task goes on. -/
theorem evolve (h : Owned st) {tasks : AssocMap ℕ MediaTask} (f : ℕ → MediaTask → MediaTask)
    (lookup : ∀ media, tasks.lookup media = (st.tasks.lookup media).map (f media))
    (evolves : ∀ media task, st.tasks.lookup media = some task → Evolves task (f media task)) :
    Owned { st with tasks := tasks } := by
  have hback {media : ℕ} {later : MediaTask} (hlater : tasks.lookup media = some later) :
      ∃ task, st.tasks.lookup media = some task ∧ Evolves task later := by
    rw [lookup] at hlater
    obtain ⟨task, htask, rfl⟩ := Option.map_eq_some_iff.mp hlater
    exact ⟨task, htask, evolves media task htask⟩
  have hforth {media : ℕ} {task : MediaTask} (htask : st.tasks.lookup media = some task) :
      tasks.lookup media = some (f media task) := by
    rw [lookup, htask, Option.map_some]
  refine ⟨?_, ?_, h.playout, ?_, ?_, ?_, ?_⟩
  · intro media later hlater hlive
    obtain ⟨task, htask, hev⟩ := hback hlater
    exact h.live media task htask (hev.live hlive)
  · intro media hmedia
    obtain ⟨task, htask, howner, hconnection⟩ := h.registered media hmedia
    have hev := evolves media task htask
    exact ⟨_, hforth htask, howner.trans hev.controller.symm,
      hconnection.trans (congrArg some hev.connection.symm)⟩
  · intro media later hlater
    obtain ⟨task, htask, -⟩ := hback hlater
    exact h.fresh media task htask
  · intro other found media hfound hmedia
    obtain ⟨task, htask, hholds⟩ := h.held other found media hfound hmedia
    exact ⟨_, hforth htask, (evolves media task htask).holds hholds⟩
  · intro media later by_ hlater haborted
    obtain ⟨task, htask, hev⟩ := hback hlater
    obtain hold | hgranted := hev.aborted by_ haborted
    · exact hev.grants (h.aborted media task by_ htask hold)
    · exact hev.grants hgranted
  · intro media later hlater entry hmem
    obtain ⟨task, htask, hev⟩ := hback hlater
    obtain hold | hgranted := hev.commands entry hmem
    · exact hev.grants (h.commands media task htask entry hold)
    · exact hev.grants hgranted

theorem modify (h : Owned st) {media : ℕ} {f : MediaTask → MediaTask}
    (evolves : ∀ task, st.tasks.lookup media = some task → Evolves task (f task)) :
    Owned { st with tasks := AssocMap.modify media f st.tasks } := by
  refine h.evolve (fun other => if other = media then f else id) (fun other => ?_)
    (fun other task htask => ?_)
  · rw [AssocMap.lookup_modify]
    split
    · rfl
    · rw [Option.map_id, id]
  · split
    · subst other
      exact evolves task htask
    · exact .refl task

theorem replace (h : Owned st) {media : ℕ} {task later : MediaTask}
    (found : st.tasks.lookup media = some task) (evolves : Evolves task later) :
    Owned { st with tasks := st.tasks.insert media later } := by
  refine h.evolve (fun other task => if other = media then later else task) (fun other => ?_)
    (fun other old hold => ?_)
  · rw [AssocMap.lookup_insert_ite]
    split
    · subst other
      rw [found, Option.map_some]
    · exact Option.map_id'.symm
  · split
    · subst other
      cases found.symm.trans hold
      exact evolves
    · exact .refl old

theorem abortOwn (h : Owned st) (conn : RaopConnection) (nonce : String) :
    Owned (st.abortOwn conn nonce) :=
  h.evolve (fun _ => MediaTask.abortOf (conn.actor nonce))
    (fun media => AssocMap.lookup_mapValues _ _ media) fun _ task _ => .abortOf task _

/-- The lock of the session lets the actor touch the registered task. -/
theorem granted (h : Owned st) (permitted : sessionRejection conn nonce st.session = none)
    {media : ℕ} {task : MediaTask} (registered : st.session.mediaAbort = some media)
    (found : st.tasks.lookup media = some task) : task.grants (conn.actor nonce) := by
  obtain ⟨known, hknown, howner, hconnection⟩ := h.registered media registered
  cases hknown.symm.trans found
  rw [sessionRejection] at permitted
  split at permitted
  · cases permitted
  · rename_i hfresh
    cases howned : conn.hasOwnedAudio with
    | true =>
      have hsame : st.session.ownerConnection = some nonce := by
        by_contra hother
        exact hfresh ⟨howned, hother⟩
      exact .inl (Option.some.inj (hsame.symm.trans hconnection))
    | false =>
      refine .inr ⟨howned, ?_⟩
      split at permitted
      · rename_i hpermits
        rw [ControllerSession.permits] at hpermits
        split at hpermits
        · rename_i hnobody
          exact .inl (howner.symm.trans hnobody)
        · rename_i owner hsomebody
          rw [Bool.and_eq_true, decide_eq_true_eq] at hpermits
          exact .inr ⟨hpermits.1, hpermits.2.trans (hsomebody.symm.trans howner)⟩
      · cases permitted

theorem abortMedia (h : Owned st) {by_ : Actor}
    (granted : ∀ media task, st.session.mediaAbort = some media →
      st.tasks.lookup media = some task → task.grants by_) :
    Owned (st.abortMedia by_) ∧
      ∀ media task, (st.abortMedia by_).tasks.lookup media = some task → task.live = false := by
  rw [Server.abortMedia]
  split
  · rename_i hnone
    refine ⟨h, fun media task found => Bool.of_not_eq_true fun hlive => ?_⟩
    rw [h.live media task found hlive] at hnone
    cases hnone
  · rename_i registered hregistered
    refine ⟨h.modify fun task found => .abort (granted registered task hregistered found),
      fun media later hlater => ?_⟩
    rw [AssocMap.lookup_modify] at hlater
    split at hlater
    · obtain ⟨task, -, rfl⟩ := Option.map_eq_some_iff.mp hlater
      exact task.abort_dead by_
    · rename_i hother
      apply Bool.of_not_eq_true
      intro hlive
      have hmedia := h.live media later hlater hlive
      rw [hregistered] at hmedia
      exact hother (Option.some.inj hmedia).symm

theorem vacate (h : Owned st)
    (dead : ∀ media task, st.tasks.lookup media = some task → task.live = false) :
    Owned st.vacate := by
  refine { h with live := fun media task found hlive => ?_, registered := nofun, playout := rfl }
  rw [dead media task found] at hlive
  cases hlive

theorem dispatch (h : Owned st) (found : st.connections.lookup nonce = some conn)
    (action : Action) (legacy : Bool) : Owned (st.dispatch conn nonce action legacy) := by
  have hanswer (response : RtspStatus) : Owned (st.setConnection nonce (conn.answer response)) :=
    h.settle found rfl id nofun
  rw [Server.dispatch]
  split
  · split
    · exact hanswer _
    · rename_i hpermitted
      refine h.setConnection fun media hmedia => ?_
      cases hauth : conn.ap2Authenticated with
      | true =>
        simp only [hauth, if_true] at hmedia
        rw [h.playout] at hmedia
        obtain ⟨task, hlookup, -, -⟩ := h.registered media hmedia
        refine ⟨task, hlookup, fun hnot => ?_, fun _ _ => h.granted hpermitted hmedia hlookup⟩
        exact absurd (hauth.symm.trans hnot) (by decide)
      | false =>
        simp only [hauth, Bool.false_eq_true, if_false] at hmedia
        obtain ⟨task, hlookup, hlegacy, -⟩ := h.held nonce conn media found hmedia
        exact ⟨task, hlookup, fun _ => hlegacy hauth, fun _ _ => .inl (hlegacy hauth).symm⟩
  · exact hanswer _

/-- A new task is started where none is alive. -/
theorem start (h : Owned st)
    (dead : ∀ media task, st.tasks.lookup media = some task → task.live = false)
    (nonce : String) (controller : Option String) :
    Owned { st with
      tasks := st.tasks.insert st.nextTask (.start nonce controller)
      nextTask := st.nextTask + 1
      session := ⟨controller, some nonce, some st.nextTask, some st.nextTask⟩ } := by
  have hcases {media : ℕ} {task : MediaTask}
      (found : (st.tasks.insert st.nextTask (.start nonce controller)).lookup media = some task) :
      (media = st.nextTask ∧ task = .start nonce controller) ∨
        st.tasks.lookup media = some task := by
    rw [AssocMap.lookup_insert_ite] at found
    split at found
    · exact .inl ⟨‹_›, (Option.some.inj found).symm⟩
    · exact .inr found
  have hold {media : ℕ} {task : MediaTask} (found : st.tasks.lookup media = some task) :
      (st.tasks.insert st.nextTask (.start nonce controller)).lookup media = some task := by
    rw [AssocMap.lookup_insert_ite, if_neg (Nat.ne_of_lt (h.fresh media task found))]
    exact found
  have hnew : (st.tasks.insert st.nextTask (.start nonce controller)).lookup st.nextTask =
      some (.start nonce controller) := AList.lookup_insert _
  refine ⟨?_, ?_, rfl, ?_, ?_, ?_, ?_⟩
  · intro media task found hlive
    obtain ⟨rfl, -⟩ | hfound := hcases found
    · rfl
    · rw [dead media task hfound] at hlive
      cases hlive
  · rintro media ⟨⟩
    exact ⟨_, hnew, rfl, rfl⟩
  · intro media task found
    obtain ⟨rfl, -⟩ | hfound := hcases found
    · exact Nat.lt_succ_self _
    · exact Nat.lt_succ_of_lt (h.fresh media task hfound)
  · intro other kept media hkept hmedia
    obtain ⟨task, hfound, hholds⟩ := h.held other kept media hkept hmedia
    exact ⟨task, hold hfound, hholds⟩
  · intro media task by_ found haborted
    obtain ⟨-, rfl⟩ | hfound := hcases found
    · cases haborted
    · exact h.aborted media task by_ hfound haborted
  · intro media task found entry hmem
    obtain ⟨-, rfl⟩ | hfound := hcases found
    · cases hmem
    · exact h.commands media task hfound entry hmem

theorem claim (h : Owned st) (found : st.connections.lookup nonce = some conn) :
    Owned (st.claim conn nonce) := by
  rw [Server.claim]
  split
  · exact h.settle found rfl id nofun
  · rename_i hpermitted
    have hown := h.abortOwn conn nonce
    obtain ⟨haborted, hdead⟩ := hown.abortMedia fun media task => hown.granted hpermitted
    obtain ⟨tasks, heq⟩ := (st.abortOwn conn nonce).abortMedia_eq (conn.actor nonce)
    have hstarted := haborted.start hdead nonce conn.controllerId
    rw [heq] at hstarted ⊢
    refine hstarted.setConnection fun media hmedia => ?_
    cases hmedia
    exact ⟨_, AList.lookup_insert _, fun _ => rfl, nofun⟩

theorem send (h : Owned st) (found : st.connections.lookup nonce = some conn)
    {command : PlayoutCommand} (phase : conn.phase = .handling (.command command)) :
    Owned (st.send conn nonce command) := by
  have hanswer (response : RtspStatus) : Owned (st.setConnection nonce (conn.answer response)) :=
    h.settle found rfl id nofun
  rw [Server.send]
  split
  · exact hanswer _
  · rename_i media hmedia
    obtain ⟨task, hlookup, -, hgrants⟩ := h.held nonce conn media found hmedia
    rw [hlookup]
    exact (h.replace hlookup (.trySend (hgrants _ phase) command)).settle found rfl id nofun

theorem release (h : Owned st) (found : st.connections.lookup nonce = some conn) :
    Owned (st.release conn nonce) := by
  rw [Server.release]
  split
  · exact h.settle found rfl id nofun
  · rename_i hpermitted
    obtain ⟨haborted, hdead⟩ := h.abortMedia fun media task => h.granted hpermitted
    obtain ⟨tasks, heq⟩ := st.abortMedia_eq (conn.actor nonce)
    have hfound : (st.abortMedia (conn.actor nonce)).vacate.connections.lookup nonce = some conn := by
      rw [heq]
      exact found
    exact (haborted.vacate hdead).settle hfound rfl id nofun

/-- The connection that feeds the session may do as it likes with its task. -/
theorem feeds (h : Owned st) (conn : RaopConnection)
    (feeder : st.session.ownerConnection = some nonce) {media : ℕ}
    {task : MediaTask} (registered : st.session.mediaAbort = some media)
    (found : st.tasks.lookup media = some task) : task.grants (conn.actor nonce) := by
  obtain ⟨known, hknown, -, hconnection⟩ := h.registered media registered
  cases hknown.symm.trans found
  exact .inl (Option.some.inj (feeder.symm.trans hconnection))

theorem stopMedia (h : Owned st) (conn : RaopConnection)
    (feeder : st.session.ownerConnection = some nonce) :
    Owned (st.stopMedia (conn.actor nonce)) := by
  rw [Server.stopMedia]
  split
  · exact h
  · rename_i media hmedia
    rw [h.playout] at hmedia
    exact h.modify fun task found => .trySend (h.feeds conn feeder hmedia found) .stop

theorem erase (h : Owned st) (nonce : String) :
    Owned { st with connections := st.connections.erase nonce } :=
  { h with held := fun other found media hfound =>
      h.held other found media (AssocMap.lookup_of_erase hfound) }

theorem drop (h : Owned st) (conn : RaopConnection) (nonce : String) :
    Owned (st.drop conn nonce) := by
  rw [Server.drop]
  split
  · rename_i hfeeder
    obtain ⟨tasks, heq⟩ := st.stopMedia_eq (conn.actor nonce)
    have hstopped := h.stopMedia conn hfeeder
    obtain ⟨haborted, hdead⟩ := hstopped.abortMedia fun media task registered =>
      hstopped.feeds conn (by rw [heq]; exact hfeeder) registered
    exact ((haborted.vacate hdead).abortOwn conn nonce).erase nonce
  · exact (h.abortOwn conn nonce).erase nonce

theorem step (h : Owned st) {label : ServerLabel} (taken : st.step label = some after) :
    Owned after := by
  cases label with
  | connect nonce =>
    simp only [Server.step] at taken
    split at taken
    · cases taken
    · cases taken
      have hset : Owned (st.setConnection nonce .new) := h.setConnection (by rintro _ ⟨⟩)
      exact { hset with }
  | recv media =>
    obtain ⟨task, hfound, htaken⟩ := Option.bind_eq_some_iff.mp taken
    split at htaken
    · cases htaken
    · cases htaken
      exact h.replace hfound (.recv task)
  | ends media =>
    obtain ⟨task, hfound, rfl⟩ := Option.map_eq_some_iff.mp taken
    exact h.replace hfound (.close task)
  | pair nonce pairing =>
    obtain ⟨conn, hfound, htaken⟩ := Option.bind_eq_some_iff.mp taken
    split at htaken
    · cases htaken
      exact h.settle hfound rfl (fun _ => rfl) nofun
    · cases htaken
  | dispatch nonce action legacy =>
    obtain ⟨conn, hfound, htaken⟩ := Option.bind_eq_some_iff.mp taken
    split at htaken
    · cases htaken
      exact h.dispatch hfound action legacy
    · cases htaken
  | fails nonce response =>
    obtain ⟨conn, hfound, htaken⟩ := Option.bind_eq_some_iff.mp taken
    split at htaken
    · cases htaken
      exact h.settle hfound rfl id nofun
    · cases htaken
  | claim nonce =>
    obtain ⟨conn, hfound, htaken⟩ := Option.bind_eq_some_iff.mp taken
    split at htaken
    · cases htaken
      exact h.claim hfound
    · cases htaken
  | send nonce =>
    obtain ⟨conn, hfound, htaken⟩ := Option.bind_eq_some_iff.mp taken
    split at htaken
    · rename_i command hphase
      cases htaken
      exact h.send hfound hphase
    · cases htaken
  | abortOwn nonce =>
    obtain ⟨conn, hfound, htaken⟩ := Option.bind_eq_some_iff.mp taken
    split at htaken
    · cases htaken
      exact (h.abortOwn conn nonce).settle hfound rfl id nofun
    · cases htaken
  | release nonce =>
    obtain ⟨conn, hfound, htaken⟩ := Option.bind_eq_some_iff.mp taken
    split at htaken
    · cases htaken
      exact h.release hfound
    · cases htaken
  | shutdown nonce =>
    obtain ⟨conn, hfound, htaken⟩ := Option.bind_eq_some_iff.mp taken
    split at htaken
    · cases htaken
      exact (h.abortOwn conn nonce).settle hfound rfl id nofun
    · cases htaken
      exact (h.abortOwn conn nonce).settle hfound rfl id nofun
    · cases htaken
  | drop nonce =>
    obtain ⟨conn, hfound, htaken⟩ := Option.bind_eq_some_iff.mp taken
    split at htaken
    · cases htaken
      exact h.drop conn nonce
    · cases htaken
      exact h.drop conn nonce
    · cases htaken
      exact h.drop conn nonce
    · cases htaken

theorem of_reachable (h : serverSystem.Reachable st) : Owned st :=
  h.invariant init fun _ _ _ howned taken => howned.step taken

end Owned

/-- A live task of a claimed session is the one that the session knows, with its owner and its
connection. So there are never two. -/
theorem one_live_stream (h : serverSystem.Reachable st) {media : ℕ} {task : MediaTask}
    (found : st.tasks.lookup media = some task) (live : task.live = true) :
    st.session = ⟨task.controller, some task.connection, some media, some media⟩ ∧
      ∀ other task, st.tasks.lookup other = some task → task.live = true → other = media := by
  have howned := Owned.of_reachable h
  have hmedia := howned.live media task found live
  obtain ⟨known, hknown, howner, hconnection⟩ := howned.registered media hmedia
  cases hknown.symm.trans found
  refine ⟨ControllerSession.ext howner hconnection hmedia (howned.playout.trans hmedia),
    fun other rival hrival halive => ?_⟩
  exact Option.some.inj ((howned.live other rival hrival halive).symm.trans hmedia)

/-- A controller feeds a stream, sends a command on a second connection and moves the stream to
it. The first connection comes too late with a teardown. -/
def handover : List ServerLabel :=
  [.connect "media", .pair "media" (.verified "owner"), .dispatch "media" .setup false,
    .claim "media", .connect "control", .pair "control" (.verified "owner"),
    .dispatch "control" (.command (.flush 1 2)) false, .send "control",
    .dispatch "control" .setup false, .claim "control", .dispatch "media" .teardown false]

theorem handover_runs : ∃ st old new, serverSystem.run .init handover = some st ∧
    st.tasks.lookup 0 = some old ∧ st.tasks.lookup 1 = some new ∧ new.live = true ∧
    old.aborted = some ⟨"control", true, some "owner", false⟩ ∧
    old.queue.map Prod.fst = [⟨"control", true, some "owner", false⟩] ∧
    (st.connections.lookup "media").bind RaopConnection.response = some (409, "Stale Session") := by
  have hruns : ((serverSystem.run .init handover).bind fun st =>
      (st.tasks.lookup 0).bind fun old => (st.tasks.lookup 1).map fun new =>
        (new.live, old.aborted, old.queue.map Prod.fst,
          (st.connections.lookup "media").bind RaopConnection.response)) =
      some (true, some ⟨"control", true, some "owner", false⟩,
        [⟨"control", true, some "owner", false⟩], some (409, "Stale Session")) := by
    decide +kernel
  obtain ⟨st, hrun, hruns⟩ := Option.bind_eq_some_iff.mp hruns
  obtain ⟨old, hold, hruns⟩ := Option.bind_eq_some_iff.mp hruns
  obtain ⟨new, hnew, hruns⟩ := Option.map_eq_some_iff.mp hruns
  simp only [Prod.mk.injEq] at hruns
  exact ⟨st, old, new, hrun, hold, hnew, hruns⟩

theorem one_live_stream_on_handover : ∃ st task,
    serverSystem.run .init handover = some st ∧ st.tasks.lookup 1 = some task ∧ task.live = true ∧
      st.session = ⟨task.controller, some task.connection, some 1, some 1⟩ ∧
      ∀ other task, st.tasks.lookup other = some task → task.live = true → other = 1 := by
  obtain ⟨st, -, new, hrun, -, hnew, hlive, -⟩ := handover_runs
  exact ⟨st, new, hrun, hnew, hlive, one_live_stream (.of_run .init hrun) hnew hlive⟩

/-- Whoever aborted a task or gave it a command was the connection that feeds it, or a connection
that never fed a stream and was verified as the controller of the task. A task that was claimed
without a controller is open to every connection that never fed a stream. -/
theorem media_authority (h : serverSystem.Reachable st) {media : ℕ} {task : MediaTask}
    (found : st.tasks.lookup media = some task) :
    (∀ by_, task.aborted = some by_ → task.grants by_) ∧
      ∀ entry ∈ task.queue ++ task.received, task.grants entry.1 :=
  ⟨fun by_ => (Owned.of_reachable h).aborted media task by_ found,
    (Owned.of_reachable h).commands media task found⟩

theorem media_authority_on_handover : ∃ st task,
    serverSystem.run .init handover = some st ∧ st.tasks.lookup 0 = some task ∧
      task.aborted = some ⟨"control", true, some "owner", false⟩ ∧
      task.queue.map Prod.fst = [⟨"control", true, some "owner", false⟩] ∧
      (∀ by_, task.aborted = some by_ → task.grants by_) ∧
      ∀ entry ∈ task.queue ++ task.received, task.grants entry.1 := by
  obtain ⟨st, old, -, hrun, hold, -, -, haborted, hqueue, -⟩ := handover_runs
  exact ⟨st, old, hrun, hold, haborted, hqueue, media_authority (.of_run .init hrun) hold⟩

end AirSonos.Rtsp
