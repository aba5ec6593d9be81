import AirSonos.Bridge.ReleaseSteps

/-!
# Rooms that start together

What a release plans is applied in three places: where a stream is started, where a worker has
waited for the joins, and where a held stream is retried. Each stream is released once, so the
plan it is played with is the one of its own release.
-/

namespace AirSonos

open Relation BridgeRuntime

variable {env : Env} {guard : BridgeRuntime → BridgeLabel → Prop}

/-! ### Plans follow releases -/

/-- The stream was handed to the players in this release. -/
structure Release.Hands (release : Release) (id : SessionId) (generation : Nat)
    (stream : PreparedDownstream) : Prop where
  handed : stream ∈ release.prepared
  sessionId : stream.sessionId = id
  generation : stream.generation = generation

/-- The source cutoff of the streams that play on their own. Rooms that wait for joins share
the time at which the first of them stopped waiting. -/
def Release.cutoffIn (release : Release) (st : BridgeRuntime) : Option Instant :=
  match release.joins with
  | none => some release.cutoff
  | some joins => (st.groupJoins joins.ref).released.map fun time => time + SYNC_START_LEAD

/-- Delays, plans and waiting rooms have what their release planned. -/
structure Follows (env : Env) (stack : List Frame) (st : BridgeRuntime) : Prop where
  planned : ∀ after release before, st.releases = after ++ release :: before →
    release.Planned env before
  genuine : ∀ release ∈ st.releases, ∀ stream ∈ release.prepared, stream.Genuine env st.streams
  joins : ∀ release ∈ st.releases, ∀ joins, release.joins = some joins →
    joins.ref < st.nextGroupJoins
  starting : ∀ release todo roles, .starting release todo roles ∈ stack → release ∈ st.releases ∧
    todo <:+ release.prepared ∧ ∀ stream ∈ todo,
      roles.lookup stream.sessionId = release.roles.lookup stream.sessionId
  message : ∀ stream ∈ st.preparedRx, stream.heldDelay = none
  grouped : ∀ stream joins delay, Has stack st (.command (.playGroup stream joins delay)) →
    ∃ release ∈ st.releases, stream ∈ release.prepared ∧ release.joins = some joins ∧
      release.delays.lookup stream.sessionId = delay
  plan : ∀ generation plan, st.playbackRelease generation = some plan →
    ∃ release ∈ st.releases, ∃ id stream, release.Hands id generation stream ∧
      release.delays.lookup id = some plan.delay ∧
      (release.roles.lookup id = none → release.cutoffIn st = some plan.atInstant)
  held : ∀ id session, st.session id = some session → ∀ prepared,
    session.prepared = some prepared → ∀ delay, prepared.heldDelay = some delay →
      ∃ release ∈ st.releases, ∃ stream, release.Hands id prepared.generation stream ∧
        release.roles.lookup id ≠ none ∧ release.delays.lookup id = some delay
  synced : ∀ release ∈ st.releases, ∀ stream ∈ release.prepared,
    (∀ todo roles, .starting release todo roles ∈ stack → stream ∉ todo) →
    ∀ session, st.session stream.sessionId = some session →
      session.generation = stream.generation →
        release.delays.lookup stream.sessionId = some session.syncDelay

namespace Follows

variable {stack stack' : List Frame} {st st' : BridgeRuntime}

theorem plannedOf (h : Follows env stack st) {release : Release} (mem : release ∈ st.releases) :
    ∃ before, release.Planned env before := by
  obtain ⟨after, before, heq⟩ := List.append_of_mem mem
  exact ⟨before, h.planned after release before heq⟩

/-! #### What a start does -/

theorem startCommand_joins {joins : Option GroupJoins} {delay planned : Option Duration}
    {role : Option NativeMember} {stream started : PreparedDownstream} {counter : GroupJoins}
    (h : startCommand joins delay role stream = .playGroup started counter planned) :
    joins = some counter := by
  unfold startCommand at h
  split at h <;> cases h
  rfl

theorem startCommand_play {joins : Option GroupJoins} {delay : Option Duration}
    {role : Option NativeMember} {stream started : PreparedDownstream}
    (h : startCommand joins delay role stream = .play started) : joins = none := by
  unfold startCommand at h
  split at h <;> cases h
  rfl

theorem startCommand_join {joins : Option GroupJoins} {delay : Option Duration}
    {role : Option NativeMember} {stream started : PreparedDownstream} {coordinator : String}
    {counter : GroupJoins}
    (h : startCommand joins delay role stream = .join started coordinator counter) :
    role ≠ none := by
  unfold startCommand at h
  split at h <;> cases h
  exact Option.some_ne_none _

/-- The start of a stream sets the delay of its session. -/
theorem syncDelay_startStream (joins : Option GroupJoins) (delays : AssocMap SessionId Duration)
    (cutoff : Instant) (st : BridgeRuntime) (roles : AssocMap SessionId NativeMember)
    {stream : PreparedDownstream} {session' : SessionRuntime} {delay : Duration}
    (live' : (startStream env joins delays cutoff (st, roles) stream).1.session
      stream.sessionId = some session')
    (planned : delays.lookup stream.sessionId = some delay) : session'.syncDelay = delay := by
  simp only [startStream, session_sendCommand, planned, recordDelay] at live'
  have hrecorded (session : SessionRuntime)
      (live : (st.modifySession stream.sessionId fun session =>
        { session with syncDelay := delay }).session stream.sessionId = some session) :
      session.syncDelay = delay := by
    rw [session_modifySession, if_pos rfl] at live
    obtain ⟨old, -, rfl⟩ := Option.map_eq_some_iff.mp live
    rfl
  have hpayload := (startCommand_spec joins (some delay) (roles.lookup stream.sessionId) stream).2
  cases hcommand : startCommand joins (some delay) (roles.lookup stream.sessionId) stream with
  | join held =>
    rw [hcommand] at live' hpayload
    cases hpayload
    simp only [planStart, holdStream] at live'
    rw [session_modifySession, if_pos rfl] at live'
    obtain ⟨old, live, rfl⟩ := Option.map_eq_some_iff.mp live'
    exact hrecorded old live
  | _ =>
    rw [hcommand] at live'
    exact hrecorded session' live'

theorem released_releaseGroup {zoneId : ZoneId} {worker : ZoneWorker} {stream : PreparedDownstream}
    {joins : GroupJoins} {delay : Option Duration} {since : Instant}
    (released : st.releaseGroup zoneId worker stream joins delay since = some st') :
    (st'.groupJoins joins.ref).released =
      some ((st.groupJoins joins.ref).released.getD st.now) := by
  obtain ⟨-, rfl⟩ := releaseGroup_spec released
  cases delay <;>
    simp [planStream, setPlaybackPlan, BridgeRuntime.setWorker, fixRelease,
      GroupJoinState.release]

theorem cutoffIn_move (joins : JoinsStep st st') {release : Release} {cutoff : Instant}
    (bounded : ∀ joins, release.joins = some joins → joins.ref < st.nextGroupJoins)
    (h : release.cutoffIn st = some cutoff) : release.cutoffIn st' = some cutoff := by
  unfold Release.cutoffIn at h ⊢
  cases hjoins : release.joins with
  | none =>
    rw [hjoins] at h
    exact h
  | some counter =>
    rw [hjoins] at h
    obtain ⟨time, hreleased, rfl⟩ := Option.map_eq_some_iff.mp h
    exact Option.map_eq_some_iff.mpr
      ⟨time, joins.fixed _ (bounded counter hjoins) time hreleased, rfl⟩

/-! #### What a move keeps -/

theorem starting_move (h : Follows env stack st) (releases : st.releases ⊆ st'.releases)
    (move : Move env guard stack st stack' st') {release : Release}
    {todo : List PreparedDownstream} {roles : AssocMap SessionId NativeMember}
    (mem : .starting release todo roles ∈ stack') : release ∈ st'.releases ∧
      todo <:+ release.prepared ∧ ∀ stream ∈ todo,
        roles.lookup stream.sessionId = release.roles.lookup stream.sessionId := by
  cases StartingStep.move move mem with
  | kept hold =>
    obtain ⟨hrelease, hrest⟩ := h.starting _ _ _ hold
    exact ⟨releases hrelease, hrest⟩
  | @advanced release stream todo roles tail top =>
    subst top
    obtain ⟨hrelease, hsuffix, hroles⟩ := h.starting _ _ _ List.mem_cons_self
    refine ⟨releases hrelease, (List.suffix_cons stream todo).trans hsuffix, ?_⟩
    intro other hother
    obtain ⟨before, planned⟩ := h.plannedOf hrelease
    have honce := planned.once.sublist (hsuffix.sublist.map PreparedDownstream.sessionId)
    have hne : other.sessionId ≠ stream.sessionId := by
      intro heq
      apply (List.nodup_cons.mp honce).1
      rw [← heq]
      exact List.mem_map_of_mem hother
    rw [AssocMap.lookup_erase_ite, if_neg hne]
    exact hroles other (List.mem_cons_of_mem _ hother)
  | released first after =>
    rw [after, ReleasesStep.releases_openPlay]
    exact ⟨List.mem_cons_self, List.suffix_refl _, fun _ _ => rfl⟩
  | arrived first after =>
    rw [after, ReleasesStep.releases_openPlay]
    exact ⟨List.mem_cons_self, List.suffix_refl _, fun _ _ => rfl⟩

theorem message_move (h : Follows env stack st) (move : Move env guard stack st stack' st')
    {stream : PreparedDownstream} (mem : stream ∈ st'.preparedRx) : stream.heldDelay = none := by
  have hhas : Has stack' st' (.message stream) := .message mem
  obtain hold | hborn := hhas.step move
  · cases hold with
    | message hold => exact h.message stream hold
  · cases hborn with
    | message => rfl

theorem grouped_move (h : Follows env stack st) (releases : st.releases ⊆ st'.releases)
    (move : Move env guard stack st stack' st') {stream : PreparedDownstream} {joins : GroupJoins}
    {delay : Option Duration} (has : Has stack' st' (.command (.playGroup stream joins delay))) :
    ∃ release ∈ st'.releases, stream ∈ release.prepared ∧ release.joins = some joins ∧
      release.delays.lookup stream.sessionId = delay := by
  obtain hold | hborn := has.step move
  · obtain ⟨release, hrelease, hrest⟩ := h.grouped stream joins delay hold
    exact ⟨release, releases hrelease, hrest⟩
  · cases hborn with
    | command sends =>
      generalize hcommand : TransportCommand.playGroup stream joins delay = command at sends
      cases sends with
      | @start release started rest roles tail top =>
        subst top
        obtain ⟨hrelease, hsuffix, -⟩ := h.starting _ _ _ List.mem_cons_self
        have hpayload := (startCommand_spec release.joins (release.delays.lookup started.sessionId)
          (roles.lookup started.sessionId) started).2
        rw [← hcommand] at hpayload
        cases hpayload
        exact ⟨release, releases hrelease, hsuffix.subset List.mem_cons_self,
          startCommand_joins hcommand.symm, (startCommand_delay hcommand.symm).symm⟩
      | _ => cases hcommand

theorem plan_move (h : Follows env stack st) (visited : Visited env guard stack st)
    (releases : st.releases ⊆ st'.releases) (move : Move env guard stack st stack' st')
    {generation : Nat} {plan : PlaybackRelease}
    (planned : st'.playbackRelease generation = some plan) :
    ∃ release ∈ st'.releases, ∃ id stream, release.Hands id generation stream ∧
      release.delays.lookup id = some plan.delay ∧
      (release.roles.lookup id = none → release.cutoffIn st' = some plan.atInstant) := by
  have hjoins := JoinsStep.move move
  have hstep := PlanStep.move move generation
  rw [planned] at hstep
  generalize hplan : some plan = after at hstep
  cases hstep with
  | kept =>
    obtain ⟨release, hrelease, id, stream, hands, hdelay, hcutoff⟩ :=
      h.plan generation plan hplan.symm
    refine ⟨release, releases hrelease, id, stream, hands, hdelay, fun own => ?_⟩
    exact cutoffIn_move hjoins (h.joins release hrelease) (hcutoff own)
  | @started release stream rest roles tail delay top names command lookup after =>
    cases hplan
    subst top
    obtain ⟨hrelease, hsuffix, -⟩ := h.starting _ _ _ List.mem_cons_self
    have hgenuine := visited.sound.starting _ _ _ List.mem_cons_self stream List.mem_cons_self
    refine ⟨release, releases hrelease, stream.sessionId, stream,
      ⟨hsuffix.subset List.mem_cons_self, rfl, hgenuine.generation.symm.trans names⟩, lookup,
      fun _ => ?_⟩
    rw [Release.cutoffIn, startCommand_play command]
  | @grouped zoneId worker stream joins delay since found waiting names after =>
    cases hplan
    have hhas : Has stack st (.command (.playGroup stream joins (some delay))) :=
      .command found (ZoneWorker.mem_commands_of_running waiting) rfl
    have hgenuine := hhas.genuine visited.sound rfl
    obtain ⟨release, hrelease, hmem, hcounter, hdelay⟩ := h.grouped stream joins _ hhas
    refine ⟨release, releases hrelease, stream.sessionId, stream,
      ⟨hmem, rfl, hgenuine.generation.symm.trans names⟩, hdelay, fun _ => ?_⟩
    simp only [Release.cutoffIn, hcounter, released_releaseGroup after, Option.map_some]
  | @replayed retry rest session stream delay first live current kept held names =>
    cases hplan
    have hgenuine := (visited.sound.kept _ session live stream kept).2
    obtain ⟨release, hrelease, handed, hands, hrole, hdelay⟩ :=
      h.held _ session live stream kept delay held
    refine ⟨release, releases hrelease, retry.sessionId, handed,
      ⟨hands.handed, hands.sessionId, ?_⟩, hdelay, fun own => absurd own hrole⟩
    rw [hands.generation, ← hgenuine.generation, names]

theorem held_move (h : Follows env stack st) (visited : Visited env guard stack st)
    (releases : st.releases ⊆ st'.releases) (move : Move env guard stack st stack' st')
    {id : SessionId} {session' : SessionRuntime} (live' : st'.session id = some session')
    {prepared : PreparedDownstream} (kept' : session'.prepared = some prepared) {delay : Duration}
    (held : prepared.heldDelay = some delay) :
    ∃ release ∈ st'.releases, ∃ stream, release.Hands id prepared.generation stream ∧
      release.roles.lookup id ≠ none ∧ release.delays.lookup id = some delay := by
  have hkept := (Books.move move live').prepared prepared kept'
  cases hkept with
  | same live kept =>
    obtain ⟨release, hrelease, hrest⟩ := h.held id _ live prepared kept delay held
    exact ⟨release, releases hrelease, hrest⟩
  | @held session old release started rest roles tail _ _ live kept top names command =>
    subst top names
    obtain ⟨hrelease, hsuffix, hroles⟩ := h.starting _ _ _ List.mem_cons_self
    have hcurrent := visited.startsCurrent _ _ _ List.mem_cons_self started List.mem_cons_self
    rw [generationOf, live] at hcurrent
    have hold := ((visited.coherent.session _ session live).prepared old kept).2.1
    refine ⟨release, releases hrelease, started, ⟨hsuffix.subset List.mem_cons_self, rfl, ?_⟩,
      ?_, held⟩
    · exact (hold.trans (Option.some.inj hcurrent)).symm
    · rw [← hroles started List.mem_cons_self]
      exact startCommand_join command
  | arrived mem => exact absurd (held.symm.trans (h.message _ mem)) (Option.some_ne_none _)
  | replayed => cases held

/-- The delay of a session stays that of the release of its stream. -/
theorem synced_move (h : Follows env stack st) (visited : Visited env guard stack st)
    (delayed : Delayed stack) (move : Move env guard stack st stack' st') {release : Release}
    (mem : release ∈ st.releases) {stream : PreparedDownstream} (handed : stream ∈ release.prepared)
    (started : ∀ todo roles, .starting release todo roles ∈ stack' → stream ∉ todo)
    {session' : SessionRuntime} (live' : st'.session stream.sessionId = some session')
    (current : session'.generation = stream.generation) :
    release.delays.lookup stream.sessionId = some session'.syncDelay := by
  have hgenuine := h.genuine release mem stream handed
  obtain ⟨hpositive, hbounded⟩ := visited.coherent.genuine_bounded hgenuine
  by_cases hwaits : ∃ todo roles, .starting release todo roles ∈ stack ∧ stream ∈ todo
  · -- the stream is started now
    obtain ⟨todo, roles, hframe, htodo⟩ := hwaits
    obtain ⟨tail, rfl, -⟩ := visited.scheduled.shaped.top hframe
    obtain ⟨first, rest, rfl, rfl, rfl⟩ | ⟨rfl, -⟩ := move.of_starting
    · obtain rfl | hlater := List.mem_cons.mp htodo
      · obtain ⟨delay, hdelay⟩ := Option.ne_none_iff_exists'.mp
          (delayed _ _ _ List.mem_cons_self stream List.mem_cons_self)
        rw [hdelay, syncDelay_startStream _ _ _ _ _ live' hdelay]
      · exact absurd hlater (started rest _ List.mem_cons_self)
    · cases htodo
  · have hbefore : ∀ todo roles, .starting release todo roles ∈ stack → stream ∉ todo :=
      fun todo roles hframe htodo => hwaits ⟨todo, roles, hframe, htodo⟩
    have hstep := SessionStep.move move stream.sessionId
    rw [live'] at hstep
    generalize hlive : st.session stream.sessionId = old at hstep
    cases hstep with
    | inserted => exact absurd current hpositive.ne
    | @edited session _ edit =>
      have hold := h.synced release mem stream handed hbefore session hlive
      cases edit with
      | @planned _ plan starting first todo roles tail top names =>
        subst top
        obtain ⟨delay, held, rfl, -⟩ := plan.spec
        obtain ⟨hstarting, hsuffix, -⟩ := h.starting _ _ _ List.mem_cons_self
        have hnow := visited.startsCurrent _ _ _ List.mem_cons_self first List.mem_cons_self
        rw [names, generationOf, hlive] at hnow
        have hfirst : first.generation = stream.generation :=
          (Option.some.inj hnow).symm.trans current
        obtain ⟨rfl, rfl⟩ := visited.release_unique mem hstarting handed
          (hsuffix.subset List.mem_cons_self) names hfirst
        exact absurd List.mem_cons_self (hbefore _ _ List.mem_cons_self)
      | retired =>
        simp only at current
        omega
      | stopped =>
        simp only at current
        omega
      | encoderClosed =>
        simp only at current
        omega
      | _ => exact hold current

theorem planned_move (h : Follows env stack st) (visited : Visited env guard stack st)
    (delayed : Delayed stack) (move : Move env guard stack st stack' st')
    (releases : ReleasesStep env stack st stack' st' st'.releases) {after before : List Release}
    {release : Release} (mem : st'.releases = after ++ release :: before) :
    release.Planned env before := by
  have hvisited : Visited env guard stack' st' := visited.tail move
  have honce := hvisited.handedOnce
  simp only [BridgeRuntime.handedStreams] at honce
  generalize st'.releases = all at releases mem honce
  cases releases with
  | kept => exact h.planned after release before mem
  | @opened new tail opened top quiet =>
    cases after with
    | cons first rest =>
      obtain ⟨-, hrest⟩ := List.cons.inj mem
      exact h.planned rest release before hrest
    | nil =>
      obtain ⟨rfl, rfl⟩ := List.cons.inj mem
      rw [List.flatMap_cons] at honce
      refine opened.planned (fun stream hmem earlier hearlier other hother hid hgeneration => ?_)
        fun earlier hearlier other hother session live current => ?_
      · refine List.disjoint_of_nodup_append honce (List.mem_map_of_mem hmem)
          (List.mem_flatMap.mpr ⟨earlier, hearlier, ?_⟩)
        rw [← hid, ← hgeneration]
        exact List.mem_map_of_mem hother
      · refine h.synced_move visited delayed move hearlier hother ?_ live current
        intro todo roles hframe htodo
        obtain ⟨rest, hstack, -⟩ := hvisited.scheduled.shaped.top hframe
        rw [top] at hstack
        cases hstack
        exact List.disjoint_of_nodup_append honce (List.mem_map_of_mem htodo)
          (List.mem_flatMap.mpr ⟨_, hearlier, List.mem_map_of_mem hother⟩)

theorem move (h : Follows env stack st) (wav : env.config.codec = .wav)
    (visited : Visited env guard stack st) (move : Move env guard stack st stack' st') :
    Follows env stack' st' := by
  have hreleases := ReleasesStep.move wav visited move
  have hsubset := hreleases.subset
  have hdelayed := Visited.delayed wav visited
  refine ⟨fun after release before => h.planned_move visited hdelayed move hreleases, ?_, ?_,
    fun release todo roles => h.starting_move hsubset move,
    fun stream => h.message_move move, fun stream joins delay => h.grouped_move hsubset move,
    fun generation plan => h.plan_move visited hsubset move,
    fun id session live prepared kept delay => h.held_move visited hsubset move live kept, ?_⟩
  · intro release hmem stream hstream
    generalize st'.releases = all at hreleases hmem
    cases hreleases with
    | kept => exact (h.genuine release hmem stream hstream).mono (streams_subset move)
    | opened opened top quiet genuine =>
      obtain rfl | hold := List.mem_cons.mp hmem
      · exact genuine stream hstream
      · exact (h.genuine release hold stream hstream).mono (streams_subset move)
  · intro release hmem joins hjoins
    have hnext := (JoinsStep.move move).next
    generalize st'.releases = all at hreleases hmem
    cases hreleases with
    | kept => exact (h.joins release hmem joins hjoins).trans_le hnext
    | opened opened top quiet genuine bounded =>
      obtain rfl | hold := List.mem_cons.mp hmem
      · exact bounded joins hjoins
      · exact (h.joins release hold joins hjoins).trans_le hnext
  · intro release hmem stream hstream started session' live' current
    generalize st'.releases = all at hreleases hmem
    cases hreleases with
    | kept => exact h.synced_move visited hdelayed move hmem hstream started live' current
    | opened opened top =>
      obtain rfl | hold := List.mem_cons.mp hmem
      · refine absurd hstream (started _ release.roles ?_)
        rw [top]
        exact List.mem_cons_self
      · exact h.synced_move visited hdelayed move hold hstream started live' current

end Follows

theorem Visited.follows (wav : env.config.codec = .wav) {stack : List Frame} {st : BridgeRuntime}
    (h : Visited env guard stack st) : Follows env stack st := by
  refine h.invariant (P := Follows env) ?_ fun _ _ _ _ visited follows move =>
    follows.move wav visited move
  constructor
  · intro after release before heq
    cases after <;> cases heq
  · exact fun _ hmem => absurd hmem List.not_mem_nil
  · exact fun _ hmem => absurd hmem List.not_mem_nil
  · exact fun _ _ _ hmem => absurd hmem List.not_mem_nil
  · exact fun _ hmem => absurd hmem List.not_mem_nil
  · exact fun _ _ _ has => absurd has (not_has_new _)
  · exact fun _ _ heq => by cases heq
  · exact fun _ _ live => by cases live
  · exact fun _ hmem => absurd hmem List.not_mem_nil

/-! ### Rooms that play were released -/

/-- The stream of this generation was handed to the players. -/
def BridgeRuntime.Handed (st : BridgeRuntime) (id : SessionId) (generation : Nat) : Prop :=
  ∃ release ∈ st.releases, ∃ stream, release.Hands id generation stream

/-- What starts a stream follows its release, and so does what can start it again. -/
def Token.Launched (st : BridgeRuntime) : Token → Prop
  | command sent => sent.isStart = true → st.Handed sent.sessionId sent.generation
  | result report =>
    (report.outcome = .started ∨ report.outcome = .joined →
      st.Handed report.sessionId report.generation) ∧
    (st.Handed report.sessionId report.generation ∨
      st.Unprepared report.sessionId report.generation)
  | timer due => st.Handed due.sessionId due.generation ∨ st.Unprepared due.sessionId due.generation
  | retry due => st.Handed due.sessionId due.generation ∨ st.Unprepared due.sessionId due.generation
  | _ => True

section Launches

variable {stack stack' : List Frame} {st st' : BridgeRuntime}

theorem Handed.mono {id : SessionId} {generation : Nat} (h : st.Handed id generation)
    (releases : st.releases ⊆ st'.releases) : st'.Handed id generation := by
  obtain ⟨release, hmem, hrest⟩ := h
  exact ⟨release, releases hmem, hrest⟩

theorem handed_or_unprepared (visited : Visited env guard stack st)
    (releases : st.releases ⊆ st'.releases) (move : Move env guard stack st stack' st')
    {token : Token} (has : Has stack st token) (other : ∀ stream, token ≠ .message stream)
    (h : st.Handed token.sessionId token.generation ∨
      st.Unprepared token.sessionId token.generation) :
    st'.Handed token.sessionId token.generation ∨
      st'.Unprepared token.sessionId token.generation :=
  h.imp (fun handed => Handed.mono handed releases)
    (Unprepared.move visited move has fun stream heq => absurd heq (other stream))

theorem Token.Launched.old (visited : Visited env guard stack st)
    (releases : st.releases ⊆ st'.releases) (move : Move env guard stack st stack' st')
    {token : Token} (has : Has stack st token) (h : token.Launched st) : token.Launched st' := by
  cases token with
  | command sent => exact fun start => Handed.mono (h start) releases
  | result report =>
    exact ⟨fun outcome => Handed.mono (h.1 outcome) releases,
      handed_or_unprepared visited releases move has nofun h.2⟩
  | timer due => exact handed_or_unprepared visited releases move has nofun h
  | retry due => exact handed_or_unprepared visited releases move has nofun h
  | _ => trivial

theorem Visited.launched (wav : env.config.codec = .wav) (h : Visited env guard stack st) :
    ∀ token, Has stack st token → token.Launched st := by
  refine h.invariant (P := fun stack st => ∀ token, Has stack st token → token.Launched st)
    (fun token has => absurd has (not_has_new token)) ?_
  intro stack st stack' st' visited launched move token has
  have hreleases := (ReleasesStep.move wav visited move).subset
  have hfollows := visited.follows wav
  have htimed := visited.timed wav
  obtain hold | hborn := has.step move
  · exact (launched token hold).old visited hreleases move hold
  cases hborn with
  | command sends =>
    intro start
    cases sends with
    | stop => cases start
    | prepare => cases start
    | @start release stream rest roles tail top =>
      subst top
      obtain ⟨hrelease, hsuffix, -⟩ := hfollows.starting _ _ _ List.mem_cons_self
      obtain ⟨hid, -, hgeneration⟩ := TransportCommand.names_of_payload
        (startCommand_spec release.joins (release.delays.lookup stream.sessionId)
          (roles.lookup stream.sessionId) stream).2
      exact ⟨release, hreleases hrelease, stream,
        ⟨hsuffix.subset List.mem_cons_self, hid.symm, hgeneration.symm⟩⟩
    | @replay due rest session stream first live current kept =>
      have hhas : Has stack st (.retry due) := .retry (first ▸ List.mem_cons_self)
      have hid := (visited.sound.kept _ session live stream kept).1
      have hsame := ((visited.coherent.session _ session live).prepared stream kept).2.1
      obtain hhanded | hunprepared := launched _ hhas
      · have hafter := Handed.mono hhanded hreleases
        rw [← hid, ← current, ← hsame] at hafter
        exact hafter
      · exact absurd (hsame.trans current) (hunprepared session live stream kept)
  | @result zoneId worker task report found running request last ends start =>
    have hhas : Has stack st (.command task.command) :=
      .command found (ZoneWorker.mem_commands_of_running running) (ends.active start)
    have hlaunched := launched _ hhas
    refine ⟨fun outcome => ?_, ?_⟩
    · rw [ends.sessionId, ends.generation]
      exact Handed.mono (hlaunched (ends.start outcome)) hreleases
    · rw [ends.sessionId, ends.generation]
      cases hcommand : task.command with
      | prepare prepared =>
        rw [hcommand] at hhas
        exact .inr (Unprepared.move visited move hhas nofun (htimed.token _ hhas).2)
      | stop =>
        have hactive := ends.active start
        rw [hcommand] at hactive
        cases hactive
      | _ =>
        rw [hcommand] at hlaunched
        exact .inl (Handed.mono (hlaunched rfl) hreleases)
  | scheduled origin =>
    exact handed_or_unprepared visited hreleases move origin nofun (launched _ origin).2
  | rebuilt fresh => exact .inr (Unprepared.of_fresh visited move fresh)
  | fired origin =>
    exact handed_or_unprepared visited hreleases move origin nofun (launched _ origin)
  | _ => trivial

/-- The stream was handed to the players as the stream of a member. -/
def BridgeRuntime.HandedAsMember (st : BridgeRuntime) (id : SessionId) (generation : Nat) : Prop :=
  ∃ release ∈ st.releases, ∃ stream, release.Hands id generation stream ∧
    release.roles.lookup id ≠ none

theorem HandedAsMember.mono {id : SessionId} {generation : Nat}
    (h : st.HandedAsMember id generation) (releases : st.releases ⊆ st'.releases) :
    st'.HandedAsMember id generation := by
  obtain ⟨release, hmem, hrest⟩ := h
  exact ⟨release, releases hmem, hrest⟩

/-- Only a member joins. What has reported that it plays has its stream released, and what has
reported that it joined is a member. -/
def Token.Started (st : BridgeRuntime) : Token → Prop
  | command (.join stream _ _) => st.HandedAsMember stream.sessionId stream.generation
  | result report =>
    (report.outcome = .started → st.playbackRelease report.generation ≠ none) ∧
    (report.outcome = .joined → st.HandedAsMember report.sessionId report.generation)
  | _ => True

theorem Token.Started.old (releases : st.releases ⊆ st'.releases)
    (move : Move env guard stack st stack' st') {token : Token} (h : token.Started st) :
    token.Started st' := by
  cases token with
  | command sent =>
    cases sent with
    | join stream coordinator joins => exact HandedAsMember.mono h releases
    | _ => trivial
  | result report =>
    exact ⟨fun outcome => PlanStep.mono move (h.1 outcome),
      fun outcome => HandedAsMember.mono (h.2 outcome) releases⟩
  | _ => trivial

theorem joinOutcome_ne_started (reply : Reply) : joinOutcome reply ≠ .started := by
  unfold joinOutcome
  split
  · exact nofun
  · exact nofun
  · next h _ => exact h

/-- A result reports that a room plays only in answer to Play. -/
theorem plays_of_started {worker worker' : ZoneWorker} {now : Instant} {reply : Reply}
    {outputs : List WorkerOutput} {task : TransportTask} {result : DownstreamStartResult}
    (replied : worker.reply now reply = some (worker', outputs))
    (running : worker.running = some task) (request : task.request.isSome = true)
    (last : ∀ next, task ≠ .leave next) (ends : result.Ends task.command)
    (reports : .result result ∈ outputs) (started : result.outcome = .started) :
    (∃ stream, task = .play stream) ∨
      ∃ stream joins delay, task = .groupPlay stream joins delay := by
  have hstart := ends.start (.inl started)
  cases task with
  | play stream => exact .inl ⟨stream, rfl⟩
  | groupPlay stream joins delay => exact .inr ⟨stream, joins, delay, rfl⟩
  | leave next => exact absurd rfl (last next)
  | groupWait => cases request
  | join stream coordinator joins =>
    simp only [ZoneWorker.reply, running, TransportTask.request, ZoneWorker.resume,
      reportStart, Option.some.injEq] at replied
    cases replied
    obtain heq | hmem := List.mem_cons.mp reports
    · cases heq
    · cases List.mem_singleton.mp hmem
      exact absurd started (joinOutcome_ne_started reply)
  | _ => cases hstart

theorem Visited.startedTokens (wav : env.config.codec = .wav) (h : Visited env guard stack st) :
    ∀ token, Has stack st token → token.Started st := by
  refine h.invariant (P := fun stack st => ∀ token, Has stack st token → token.Started st)
    (fun token has => absurd has (not_has_new token)) ?_
  intro stack st stack' st' visited started move token has
  have hreleases := (ReleasesStep.move wav visited move).subset
  have hfollows := visited.follows wav
  have htimed := visited.timed wav
  obtain hold | hborn := has.step move
  · exact (started token hold).old hreleases move
  cases hborn with
  | command sends =>
    cases sends with
    | stop => trivial
    | prepare => trivial
    | replay => trivial
    | @start release stream rest roles tail top =>
      subst top
      obtain ⟨hrelease, hsuffix, hroles⟩ := hfollows.starting _ _ _ List.mem_cons_self
      have hpayload := (startCommand_spec release.joins (release.delays.lookup stream.sessionId)
        (roles.lookup stream.sessionId) stream).2
      cases hcommand : startCommand release.joins (release.delays.lookup stream.sessionId)
        (roles.lookup stream.sessionId) stream with
      | join joining coordinator joins =>
        rw [hcommand] at hpayload
        cases hpayload
        refine ⟨release, hreleases hrelease, stream,
          ⟨hsuffix.subset List.mem_cons_self, rfl, rfl⟩, ?_⟩
        rw [← hroles stream List.mem_cons_self]
        exact Follows.startCommand_join hcommand
      | _ => trivial
  | @result zoneId worker task report found running request last ends start joined reply worker'
      outputs replied reports =>
    have hhas (active : task.command.isStop = false) : Has stack st (.command task.command) :=
      .command found (ZoneWorker.mem_commands_of_running running) active
    rw [Token.Started, ends.sessionId, ends.generation]
    refine ⟨fun outcome => ?_, fun outcome => ?_⟩
    · obtain ⟨stream, rfl⟩ | ⟨stream, joins, delay, rfl⟩ :=
        plays_of_started replied running request last ends reports outcome
      · exact PlanStep.mono move (htimed.token _ (hhas rfl))
      · exact PlanStep.mono move (htimed.grouped _ _ _ _ _ found running)
    · obtain ⟨stream, coordinator, joins, rfl⟩ := joined outcome
      exact HandedAsMember.mono (started _ (hhas rfl)) hreleases
  | _ => trivial

/-- A session that is seen to play wants to. -/
theorem Visited.wanted_of_playing (h : Visited env guard stack st) {id : SessionId}
    {session : SessionRuntime} (live : st.session id = some session)
    (playing : session.observed = .playing) : session.desiredPlayback = true := by
  refine h.invariant (P := fun _ st => ∀ id session, st.session id = some session →
    session.observed = .playing → session.desiredPlayback = true) (fun _ _ h => by cases h) ?_
    id session live playing
  clear live playing h
  intro stack st stack' st' _ wanted move id session' live' playing
  have hstep := SessionStep.move move id
  rw [live'] at hstep
  generalize hlive : st.session id = old at hstep
  cases hstep with
  | inserted => cases playing
  | @edited session _ edit =>
    have hold := wanted id session hlive
    cases edit with
    | retired => cases playing
    | paused => cases playing
    | unsettled => cases playing
    | noted observed begins quiet => exact absurd playing quiet
    | planned plan =>
      obtain ⟨delay, held, rfl, -⟩ := plan.spec
      exact hold playing
    | resumed => rfl
    | played result begins reported names current wanted => exact wanted
    | _ => exact hold playing

/-- What every reported start has, a session that is seen to play keeps while it has an
encoder. -/
theorem Visited.of_playing {P : BridgeRuntime → SessionId → Nat → Prop}
    (mono : ∀ {stack st stack' st'}, Visited env guard stack st →
      Move env guard stack st stack' st' → ∀ id generation, P st id generation →
        P st' id generation)
    (reported : ∀ {stack st}, Visited env guard stack st → ∀ result ∈ st.resultRx,
      result.outcome = .started ∨ result.outcome = .joined →
        P st result.sessionId result.generation)
    (h : Visited env guard stack st) {id : SessionId} {session : SessionRuntime}
    (live : st.session id = some session) (playing : session.observed = .playing) :
    P st id session.generation ∨ session.encoder = none := by
  refine h.invariant (P := fun _ st => ∀ id session, st.session id = some session →
    session.observed = .playing → P st id session.generation ∨ session.encoder = none)
    (fun _ _ h => by cases h) ?_ id session live playing
  clear live playing h
  intro stack st stack' st' visited plays move id session' live' playing
  have hstep := SessionStep.move move id
  rw [live'] at hstep
  generalize hlive : st.session id = old at hstep
  cases hstep with
  | inserted => cases playing
  | @edited session _ edit =>
    have hold (before : session.observed = .playing) :=
      (plays id session hlive before).imp_left (mono visited move id session.generation)
    cases edit with
    | retired => cases playing
    | paused => cases playing
    | unsettled => cases playing
    | noted observed begins quiet => exact absurd playing quiet
    | planned plan =>
      obtain ⟨delay, held, rfl, -⟩ := plan.spec
      exact hold playing
    | stopped pausing =>
      obtain ⟨zoneId, todo, hframe⟩ := pausing
      obtain ⟨paused, hpaused, hunwanted⟩ := visited.framed _ _ hframe
      rw [hlive] at hpaused
      cases hpaused
      have hwanted := visited.wanted_of_playing hlive playing
      exact absurd (hunwanted.symm.trans hwanted) Bool.false_ne_true
    | encoderClosed => exact .inr rfl
    | flushed playbackEpoch encoder task begins newer keeps =>
      have hwanted := visited.wanted_of_playing hlive playing
      refine (hold playing).imp_right fun hnone => ?_
      rw [keeps hwanted]
      exact hnone
    | played result begins mem names current wanted outcome =>
      have hplayed := reported visited result mem outcome
      rw [names, ← current] at hplayed
      exact .inl (mono visited move _ _ hplayed)
    | _ => exact hold playing

/-- A session that is seen to play and has an encoder plays a stream that was handed over. -/
theorem Visited.handed_of_playing (wav : env.config.codec = .wav) (h : Visited env guard stack st)
    {id : SessionId} {session : SessionRuntime} (live : st.session id = some session)
    (playing : session.observed = .playing) :
    st.Handed id session.generation ∨ session.encoder = none := by
  refine h.of_playing (P := BridgeRuntime.Handed)
    (fun visited move _ _ handed => Handed.mono handed (ReleasesStep.move wav visited move).subset)
    (fun visited result mem outcome => ?_) live playing
  have hstarts : result.outcome.stops = false := by
    obtain heq | heq := outcome <;> rw [heq] <;> rfl
  exact (visited.launched wav _ (.result mem hstarts)).1 outcome

/-- A session that is seen to play and has an encoder plays a stream that is released, or is a
member. -/
theorem Visited.released_of_playing (wav : env.config.codec = .wav)
    (h : Visited env guard stack st) {id : SessionId} {session : SessionRuntime}
    (live : st.session id = some session) (playing : session.observed = .playing) :
    (st.playbackRelease session.generation ≠ none ∨
      st.HandedAsMember id session.generation) ∨ session.encoder = none := by
  refine h.of_playing (P := fun st id generation => st.playbackRelease generation ≠ none ∨
    st.HandedAsMember id generation) (fun visited move _ _ started => ?_)
    (fun visited result mem outcome => ?_) live playing
  · exact started.imp (PlanStep.mono move)
      fun member => HandedAsMember.mono member (ReleasesStep.move wav visited move).subset
  · have hstarts : result.outcome.stops = false := by
      obtain heq | heq := outcome <;> rw [heq] <;> rfl
    have hstarted := visited.startedTokens wav _ (.result mem hstarts)
    exact outcome.imp hstarted.1 hstarted.2

/-- The stream of this generation plays on its own: its Play waits for the worker or is in flight,
or the session is seen to play and has an encoder. -/
inductive BridgeRuntime.Plays (st : BridgeRuntime) : SessionId → Nat → Prop
  | sent {stream} (has : Has [] st (.command (.play stream))) :
      Plays st stream.sessionId stream.generation
  | grouped {zoneId worker stream joins delay} (found : st.zoneWorkers zoneId = some worker)
      (running : worker.running = some (.groupPlay stream joins delay)) :
      Plays st stream.sessionId stream.generation
  | observed {id session} (live : st.session id = some session)
      (playing : session.observed = .playing) (encoder : session.encoder.isSome = true) :
      Plays st id session.generation

theorem Plays.released (wav : env.config.codec = .wav) (visited : Visited env guard [] st)
    {id : SessionId} {generation : Nat} (h : st.Plays id generation) :
    st.playbackRelease generation ≠ none ∨ st.HandedAsMember id generation := by
  cases h with
  | sent has => exact .inl ((visited.timed wav).token _ has)
  | grouped found running => exact .inl ((visited.timed wav).grouped _ _ _ _ _ found running)
  | observed live playing encoder =>
    refine (visited.released_of_playing wav live playing).resolve_right fun hnone => ?_
    rw [hnone] at encoder
    cases encoder

end Launches

/-! ### Rooms that start together -/

/-- The rooms of a release that play their own streams have one source cutoff, and each of them
is delayed to the slowest one: no stream is planned otherwise, and one that plays on its own is
planned. A member is held, while it joins, with the delay of its coordinator: the delay with
which the stream that the coordinator had was released, now or before, and with which it
plays. -/
structure Release.Aligned (env : Env) (st : BridgeRuntime) (before : List Release)
    (release : Release) : Prop where
  own : ∃ cutoff, ∀ stream ∈ release.prepared, release.roles.lookup stream.sessionId = none →
    ∃ delayMs : Nat, release.slowest env = some (delayMs + env.offset stream.room) ∧
      (∀ plan, st.playbackRelease stream.generation = some plan →
        plan = ⟨cutoff, Duration.fromMillis delayMs⟩) ∧
      (st.Plays stream.sessionId stream.generation →
        st.playbackRelease stream.generation = some ⟨cutoff, Duration.fromMillis delayMs⟩)
  member : ∀ stream ∈ release.prepared, ∀ role,
    release.roles.lookup stream.sessionId = some role → ∃ delay,
      release.delays.lookup stream.sessionId = some delay ∧
      (∀ session, st.session stream.sessionId = some session → ∀ prepared,
        session.prepared = some prepared → prepared.generation = stream.generation →
          (∀ held, prepared.heldDelay = some held → held = delay) ∧
          ∀ coordinator joins, Has [] st (.command (.join stream coordinator joins)) →
            prepared.heldDelay = some delay) ∧
      (∀ plan, st.playbackRelease stream.generation = some plan → plan.delay = delay) ∧
      ∀ earlier ∈ release :: before, ∀ other ∈ earlier.prepared,
        other.sessionId = role.coordinator →
        release.generation other.sessionId = some other.generation →
          earlier.delays.lookup other.sessionId = some delay ∧
          ∀ plan, st.playbackRelease other.generation = some plan → plan.delay = delay

/-- The stream was planned when its worker stopped waiting for the joins of its release, at the
cutoff that the rooms of the release share, and its Play is in flight. -/
structure BridgeRuntime.WaitEnded (st : BridgeRuntime) (release : Release)
    (stream : PreparedDownstream) (joins : GroupJoins) : Prop where
  handed : release ∈ st.releases ∧ stream ∈ release.prepared
  waited : release.joins = some joins
  planned : ∃ cutoff delay, release.cutoffIn st = some cutoff ∧
    release.delays.lookup stream.sessionId = some delay ∧
    st.playbackRelease stream.generation = some ⟨cutoff, delay⟩
  plays : st.Plays stream.sessionId stream.generation

section Runs

variable {stack : List Frame} {st : BridgeRuntime}

/-- A stream is played with the plan of its release. -/
theorem Follows.planOf (h : Follows env stack st) (visited : Visited env guard stack st)
    {release : Release} (mem : release ∈ st.releases) {stream : PreparedDownstream}
    (handed : stream ∈ release.prepared) {plan : PlaybackRelease}
    (planned : st.playbackRelease stream.generation = some plan) :
    release.delays.lookup stream.sessionId = some plan.delay ∧
      (release.roles.lookup stream.sessionId = none →
        release.cutoffIn st = some plan.atInstant) := by
  obtain ⟨other, hother, id, stream', hands, hrest⟩ := h.plan _ plan planned
  have howner : stream'.sessionId = stream.sessionId :=
    visited.coherent.owner (h.genuine other hother stream' hands.handed)
      (h.genuine release mem stream handed) hands.generation
  obtain ⟨rfl, rfl⟩ :=
    visited.release_unique mem hother handed hands.handed howner hands.generation
  rw [hands.sessionId]
  exact hrest

theorem Follows.heldOf (h : Follows env stack st) (visited : Visited env guard stack st)
    {release : Release} (mem : release ∈ st.releases) {stream : PreparedDownstream}
    (handed : stream ∈ release.prepared) {session : SessionRuntime}
    (live : st.session stream.sessionId = some session) {prepared : PreparedDownstream}
    (kept : session.prepared = some prepared) (current : prepared.generation = stream.generation)
    {delay : Duration} (held : prepared.heldDelay = some delay) :
    release.delays.lookup stream.sessionId = some delay := by
  obtain ⟨other, hother, stream', hands, -, hdelay⟩ :=
    h.held _ session live prepared kept delay held
  obtain ⟨rfl, rfl⟩ := visited.release_unique mem hother handed hands.handed hands.sessionId
    (hands.generation.trans current)
  exact hdelay

/-- A stream of a room that is no member has a plan once it plays. -/
theorem Visited.planned_of_plays (wav : env.config.codec = .wav) (visited : Visited env guard [] st)
    {release : Release} (mem : release ∈ st.releases) {stream : PreparedDownstream}
    (handed : stream ∈ release.prepared) (own : release.roles.lookup stream.sessionId = none)
    (plays : st.Plays stream.sessionId stream.generation) :
    st.playbackRelease stream.generation ≠ none := by
  refine (Plays.released wav visited plays).resolve_right ?_
  rintro ⟨other, hother, stream', hands, hrole⟩
  obtain ⟨rfl, rfl⟩ := visited.release_unique mem hother handed hands.handed hands.sessionId
    hands.generation
  exact hrole own

theorem Follows.aligned (h : Follows env [] st) (wav : env.config.codec = .wav)
    (visited : Visited env guard [] st) (timed : Timed [] st) {after before : List Release}
    {release : Release}
    (played : st.releases = after ++ release :: before) : release.Aligned env st before := by
  have planned := h.planned after release before played
  have hsuffix : release :: before ⊆ st.releases := by
    rw [played]
    exact List.subset_append_right _ _
  have hmem := hsuffix List.mem_cons_self
  constructor
  · refine ⟨(release.cutoffIn st).getD 0, fun stream handed own => ?_⟩
    obtain ⟨delayMs, hdelay, hslowest⟩ := planned.own stream handed own
    have hsame (plan : PlaybackRelease)
        (hplan : st.playbackRelease stream.generation = some plan) :
        plan = ⟨(release.cutoffIn st).getD 0, Duration.fromMillis delayMs⟩ := by
      obtain ⟨hplanned, hcutoff⟩ := h.planOf visited hmem handed hplan
      have hdelays : plan.delay = Duration.fromMillis delayMs :=
        Option.some.inj (hplanned.symm.trans hdelay)
      rw [hcutoff own, ← hdelays]
      rfl
    refine ⟨delayMs, hslowest, hsame, fun plays => ?_⟩
    obtain ⟨plan, hplan⟩ := Option.ne_none_iff_exists'.mp
      (visited.planned_of_plays wav hmem handed own plays)
    rw [hplan, hsame plan hplan]
  · intro stream handed role hrole
    obtain ⟨delay, hdelay, hcoordinator⟩ := planned.member stream handed role hrole
    refine ⟨delay, hdelay, ?_, ?_, ?_⟩
    · intro session live prepared kept current
      have hheld (held : Duration) (hsome : prepared.heldDelay = some held) : held = delay :=
        Option.some.inj ((h.heldOf visited hmem handed live kept current hsome).symm.trans hdelay)
      refine ⟨hheld, fun coordinator joins joining => ?_⟩
      obtain ⟨unreleased, settled⟩ := timed.token _ joining
      obtain hreleased | hsome := settled session live prepared kept current
      · exact absurd unreleased hreleased
      · obtain ⟨held, hsome⟩ := Option.ne_none_iff_exists'.mp hsome
        rw [hsome, hheld held hsome]
    · intro plan hplan
      exact Option.some.inj ((h.planOf visited hmem handed hplan).1.symm.trans hdelay)
    · intro earlier hearlier other hother hid hgeneration
      have hearlierDelay := hcoordinator earlier hearlier other hother hid hgeneration
      refine ⟨hearlierDelay, fun plan hplan => ?_⟩
      exact Option.some.inj
        ((h.planOf visited (hsuffix hearlier) hother hplan).1.symm.trans hearlierDelay)

/-- The end of a join wait plans the stream that waited. -/
theorem Visited.wait_ended (wav : env.config.codec = .wav) (visited : Visited env guard [] st)
    {zoneId : ZoneId} {worker : ZoneWorker} {stream : PreparedDownstream} {joins : GroupJoins}
    {delay : Option Duration} {since : Instant} (found : st.zoneWorkers zoneId = some worker)
    (waiting : worker.running = some (.groupWait stream joins delay since))
    (due : (st.groupJoins joins.ref).pending = 0 ∨ since + GroupJoins.WAIT ≤ st.now) :
    ∃ st', (bridge env).step st (.worker zoneId .release) = some st' ∧
      ∃ release, st'.WaitEnded release stream joins := by
  have hhas : Has [] st (.command (.playGroup stream joins delay)) :=
    .command found (ZoneWorker.mem_commands_of_running waiting) rfl
  have hgenuine : stream.Genuine env st.streams := hhas.genuine visited.sound rfl
  obtain ⟨planned, rfl⟩ := Option.ne_none_iff_exists'.mp ((visited.timed wav).token _ hhas)
  obtain ⟨release, hrelease, hmem, hjoins, hdelay⟩ :=
    (visited.follows wav).grouped stream joins _ hhas
  obtain ⟨st', hreleased⟩ : ∃ st', st.releaseGroup zoneId worker stream joins (some planned) since =
      some st' := ⟨_, if_pos due⟩
  refine ⟨st', ?_, release, ?_⟩
  · simp only [bridge, BridgeRuntime.step, found, Option.bind_some, workerStep, waiting, hreleased]
  have hcutoff := Follows.released_releaseGroup hreleased
  obtain ⟨-, rfl⟩ := releaseGroup_spec hreleased
  refine ⟨⟨hrelease, hmem⟩, hjoins, ?_, ?_⟩
  · refine ⟨(st.groupJoins joins.ref).released.getD st.now + SYNC_START_LEAD, planned, ?_, hdelay,
      ?_⟩
    · rw [Release.cutoffIn, hjoins]
      exact congrArg (Option.map fun time => time + SYNC_START_LEAD) hcutoff
    · rw [← hgenuine.generation]
      simp [planStream, setPlaybackPlan, BridgeRuntime.setWorker]
  · exact .grouped (Function.update_self ..) rfl

end Runs

/-- Every release is aligned, whatever happens after it, and a stream that waited for joins gets
its plan when the wait ends. A room that is seen to play, and still has an encoder, plays a
stream that was released. -/
theorem group_start_aligned (env : Env) (wav : env.config.codec = .wav) :
    (∀ st, (bridge env).Reachable st → ∀ after release before,
      st.releases = after ++ release :: before → release.Aligned env st before) ∧
    (∀ st, (bridge env).Reachable st → ∀ zoneId worker stream joins delay since,
      st.zoneWorkers zoneId = some worker →
        worker.running = some (.groupWait stream joins delay since) →
          (st.groupJoins joins.ref).pending = 0 ∨ since + GroupJoins.WAIT ≤ st.now →
            ∃ st', (bridge env).step st (.worker zoneId .release) = some st' ∧
              ∃ release, st'.WaitEnded release stream joins) ∧
    ∀ stack st, Visited env (fun _ _ => True) stack st → ∀ id session,
      st.session id = some session → session.observed = .playing →
        session.encoder.isSome = true → st.Handed id session.generation := by
  refine ⟨?_, ?_, ?_⟩
  · intro st reachable after release before played
    have visited : Visited env (fun _ _ => True) [] st := .of_reachable reachable
    exact (visited.follows wav).aligned wav visited (visited.timed wav) played
  · intro st reachable zoneId worker stream joins delay since found waiting due
    have visited : Visited env (fun _ _ => True) [] st := .of_reachable reachable
    exact visited.wait_ended wav found waiting due
  · intro stack st visited id session live playing encoder
    refine (visited.handed_of_playing wav live playing).resolve_right fun hnone => ?_
    rw [hnone] at encoder
    cases encoder

/-- The Kitchen is 40 ms faster than the other rooms. -/
def Household.fastKitchen : Env :=
  { Household.env with
    config :=
      { Household.env.config with
        sync :=
          { Household.sync with
            zoneOffsetsMs := AssocMap.collect [("Kitchen", -40)]
            offsets_bounded := by
              intro name offset h
              cases List.mem_singleton.mp (AssocMap.mem_of_lookup_collect h)
              decide } } }

namespace Household

/-- The Kitchen and the Den wait for the Office to join. The wait of the Den ends 5 ms after that
of the Kitchen, which then plays; a fourth room joins it later. -/
def joinedStart : List BridgeLabel :=
  [started 0 1, started 1 1, started 2 2] ++ prepares 0 ++ prepares 2 ++ prepares 1 ++
    [moves 0 .take, moves 2 .take, moves 1 .take, replies 1, .result, moves 0 .release, .tick 5,
      moves 2 .release, replies 0, .result, started 3 1] ++ prepares 3

end Household

/-- The theorem where the Kitchen and the Den start together, and a room joins the Kitchen when it
plays. -/
theorem group_start_aligned_for_three :
    ∃ st late early, (bridge Household.fastKitchen).run .new Household.joinedStart = some st ∧
      st.releases = [late, early] ∧ late.roles.lookup ⟨3⟩ = some ⟨⟨0⟩, "Kitchen"⟩ ∧
      late.delays.lookup ⟨3⟩ = some (.fromMillis 40) ∧
      st.playbackRelease 1 = some ⟨SYNC_START_LEAD, .fromMillis 40⟩ ∧
      st.playbackRelease 3 = some ⟨SYNC_START_LEAD, .fromMillis 0⟩ ∧
      late.Aligned Household.fastKitchen st [early] ∧
      early.Aligned Household.fastKitchen st [] := by
  have hruns : ((bridge Household.fastKitchen).run .new Household.joinedStart).any (fun st =>
      decide (st.releases.length = 2 ∧
        (st.releases.head?.bind fun late => late.roles.lookup ⟨3⟩) = some ⟨⟨0⟩, "Kitchen"⟩ ∧
        (st.releases.head?.bind fun late => late.delays.lookup ⟨3⟩) = some (.fromMillis 40) ∧
        st.playbackRelease 1 = some ⟨SYNC_START_LEAD, .fromMillis 40⟩ ∧
        st.playbackRelease 3 = some ⟨SYNC_START_LEAD, .fromMillis 0⟩)) = true := by
    decide +kernel
  obtain ⟨st, hrun, hfacts⟩ := (Option.any_eq_true _ _).mp hruns
  obtain ⟨hlength, hrole, hdelay, hkitchen, hden⟩ := of_decide_eq_true hfacts
  obtain ⟨late, early, hreleases⟩ := List.length_eq_two.mp hlength
  have hreached : (bridge Household.fastKitchen).Reachable st :=
    TransitionSystem.Reachable.of_run .init hrun
  have haligned := (group_start_aligned Household.fastKitchen rfl).1 st hreached
  rw [hreleases] at hrole hdelay
  exact ⟨st, late, early, hrun, hreleases, hrole, hdelay, hkitchen, hden,
    haligned [] late [early] hreleases, haligned [late] early [] hreleases⟩

end AirSonos
