import AirSonos.Diagnostics.Gui
import AirSonos.Lib.VersionedRegister

/-!
# Saves are based on the current file

A save compares the revision its draft is based on with the file it loads, and writes the file
in a later step. The file is a versioned register, and as long as no save changes it while
another one is between its check and its write, every save replaces the content its draft was
based on. Without a lock around the two steps, two saves can pass the check one after the
other and both write. The file is compared by content, so a save that leaves it unchanged, or
brings an older content back, lets a second save of one revision through.
-/

namespace AirSonos.Web

variable {ρ : Type}

/-! ### What a save promises -/

/-- A save replaced a file of the revision its draft was based on. Of two saves of one revision
at most one succeeds. The other is answered with a conflict, or it loaded a file of that revision
and failed on its own: its draft was refused, or its write failed. A save that comes when the
file has changed is answered with a conflict. -/
structure NoLostUpdate [DecidableEq ρ] (env : GuiEnv ρ) (st : Gui ρ) : Prop where
  based : ∀ save ∈ st.saves, ∀ base ∈ save.base,
    ∃ config, save.found = .ok config ∧ env.revision config = base
  exclusive : ∀ i j, i ≠ j → ∀ (first second : DraftRequest ρ)
    (firstLoaded secondLoaded : ConfigFile) (firstView : ConfigView ρ)
    (response : Except ApiError (ConfigView ρ)),
    st.handlers i = some (.saved first firstLoaded (.ok firstView)) →
    st.handlers j = some (.saved second secondLoaded response) →
    ∀ base, first.revision = some base → second.revision = some base →
      response = .error .conflict ∨ env.revision secondLoaded = base ∧
        ∃ error, response = .error error ∧
          (checkDraft env.parseSocketAddr (draftConfig env.revision second secondLoaded) =
            .error error ∨ ∃ cause, error = .internal cause)
  conflict : ∀ i (request : DraftRequest ρ) loaded response,
    st.handlers i = some (.saved request loaded response) →
    ∀ base ∈ request.revision,
      (response = .error .conflict ↔ env.revision loaded ≠ base)
  late : ∀ save ∈ st.saves, ∀ base ∈ save.base, env.revision save.left ≠ base →
    ∀ i request stored, st.handlers i = some (.saving request) → request.revision = some base →
      st.file = .ok stored →
        st.load env i = some (st.setHandler i (.saved request stored (.error .conflict)))

/-- The save of request `i` leaves the revision of the file as it is, or no other save that
carries a revision has passed its check and not yet written. -/
def Undisturbed (env : GuiEnv ρ) (st : Gui ρ) : GuiLabel ρ → Prop
  | .write i outcome =>
    outcome.replaces = true → ∀ request loaded config,
      st.handlers i = some (.writing request loaded config) →
      st.file.map env.revision = .ok (env.revision config) ∨
        ∀ j, j ≠ i → ∀ other loaded' config',
          st.handlers j = some (.writing other loaded' config') → other.revision = none
  | _ => True

/-- The save of request `i` brings no revision back that an earlier save was based on, and no
earlier save of its own revision left the file as it was. -/
def Advances (env : GuiEnv ρ) (st : Gui ρ) : GuiLabel ρ → Prop
  | .write i outcome =>
    outcome.replaces = true → ∀ request loaded config,
      st.handlers i = some (.writing request loaded config) → ∀ save ∈ st.saves,
        save.base ≠ some (env.revision config) ∧
          (save.base = request.revision → save.base ≠ some (env.revision save.left))
  | _ => True

def InTurn (env : GuiEnv ρ) (st : Gui ρ) (label : GuiLabel ρ) : Prop :=
  Undisturbed env st label ∧ Advances env st label

/-! ### The file as a versioned register -/

def Handler.checked : Handler ρ → Option (Option (Option ρ))
  | writing request _ _ => some (request.revision.map some)
  | _ => none

def Save.commit (env : GuiEnv ρ) (save : Save ρ) : Commit Nat (Option ρ) where
  client := save.request
  base := save.base.map some
  found := save.found.toOption.map env.revision
  left := some (env.revision save.left)

namespace Gui

/-- A file that cannot be read has no revision. -/
def register (env : GuiEnv ρ) (st : Gui ρ) : VersionedRegister Nat (Option ρ) where
  version := st.file.toOption.map env.revision
  checked := fun i => (st.handlers i).bind Handler.checked
  commits := st.saves.map (Save.commit env)

variable {env : GuiEnv ρ} {st : Gui ρ} {i : Nat}

theorem register_setHandler (handler : Handler ρ) :
    (st.setHandler i handler).register env =
      { st.register env with
        checked := fun j => if j = i then handler.checked else (st.register env).checked j } := by
  simp only [register, handlers_setHandler]
  refine congrArg (VersionedRegister.mk _ · _) (funext fun j => ?_)
  split <;> rfl

theorem orderly_of_unchecked (h : (st.register env).Orderly) {handler : Handler ρ}
    (unchecked : handler.checked = none) :
    ((st.setHandler i handler).register env).Orderly := by
  rw [register_setHandler, unchecked]
  refine (VersionedRegister.OrderlyStep.release fun j base heq => ?_).orderly h
  split at heq
  · cases heq
  · exact heq

theorem current_of_not_outdated [DecidableEq ρ] {request : DraftRequest ρ} {stored : ConfigFile}
    (h : request.outdated env.revision stored = false) {base : ρ}
    (carried : base ∈ request.revision) :
    env.revision stored = base := by
  rw [DraftRequest.outdated, Option.mem_def.mp carried, Option.any_some,
    decide_eq_false_iff_not] at h
  exact (not_not.mp h).symm

theorem register_send (url : Option Url)
    (client : Option (Except HomeAssistantError HomeAssistantClient)) :
    (st.send url client).register env = st.register env := by
  simp only [register, handlers_send, file_send, saves_send]

theorem register_receive (request : Except ApiError (DraftRequest ρ)) :
    (st.receive request).register env = st.register env := by
  simp only [register, handlers_receive, file_receive, saves_receive]

theorem register_replaceFile {request : DraftRequest ρ} {loaded config : ConfigFile}
    {response : Except ApiError (ConfigView ρ)} :
    ((st.replaceFile i request.revision config).setHandler i (.saved request loaded response)
      ).register env =
      (st.register env).commit i (request.revision.map some) (some (env.revision config)) := by
  rw [register_setHandler]
  rfl

theorem step_orderly [DecidableEq ρ] {st' : Gui ρ} {label : GuiLabel ρ}
    (h : (st.register env).Orderly) (undisturbed : Undisturbed env st label)
    (taken : GuiStep env st label st') : (st'.register env).Orderly := by
  have received : ∀ request, ((st.receive request).register env).Orderly := by
    intro request
    rw [register_receive]
    exact h
  have sent : ∀ url client, ((st.send url client).register env).Orderly := by
    intro url client
    rw [register_send]
    exact h
  cases taken with
  | putRefused => exact orderly_of_unchecked (received _) rfl
  | discoverRefused => exact orderly_of_unchecked (received _) rfl
  | putAccepted => exact orderly_of_unchecked (received _) rfl
  | discoverAccepted => exact orderly_of_unchecked (received _) rfl
  | unreadable => exact orderly_of_unchecked h rfl
  | rejected => exact orderly_of_unchecked h rfl
  | @passed i request stored config saving file_eq checked =>
    rw [register_setHandler]
    refine (VersionedRegister.OrderlyStep.check fun v hv => ?_).orderly h
    obtain ⟨base, carried, rfl⟩ := Option.map_eq_some_iff.mp hv
    rw [← current_of_not_outdated (checkDraft_ok checked).2.1 carried]
    simp only [register, file_eq]
    rfl
  | drafted => exact orderly_of_unchecked h rfl
  | @replaced i outcome request loaded config writing replaces =>
    rw [register_replaceFile]
    refine (VersionedRegister.OrderlyStep.commit ?_ ?_).orderly h
    · simp only [register, writing]
      rfl
    · obtain same | alone := undisturbed replaces request loaded config writing
      · left
        cases file_eq : st.file with
        | error => rw [file_eq] at same; cases same
        | ok stored =>
          rw [file_eq] at same
          simp only [register, file_eq]
          exact congrArg some (Except.ok.inj same)
      · right
        intro j hj v heq
        obtain ⟨handler, found, checked⟩ := Option.bind_eq_some_iff.mp heq
        cases handler with
        | writing other loaded' config' =>
          rw [Handler.checked, alone j hj other loaded' config' found] at checked
          cases checked
        | _ => cases checked
  | notReplaced => exact orderly_of_unchecked h rfl
  | scanned => exact orderly_of_unchecked (sent _ _) rfl
  | called =>
    simp only [callHomeAssistant]
    split
    · exact h
    · exact sent _ _
  | statusSet => exact h
  | restarted =>
    refine (VersionedRegister.OrderlyStep.release fun j base heq => ?_).orderly h
    obtain ⟨handler, found, checked⟩ := Option.bind_eq_some_iff.mp heq
    obtain ⟨before, -, rfl⟩ := Option.map_eq_some_iff.mp found
    cases before <;> cases checked

/-- Only a write that replaces the file adds a save. -/
theorem saves_step [DecidableEq ρ] {st' : Gui ρ} {label : GuiLabel ρ}
    (taken : GuiStep env st label st') : st'.saves = st.saves ∨
      ∃ i outcome request loaded config, label = .write i outcome ∧ outcome.replaces = true ∧
        st.handlers i = some (.writing request loaded config) ∧
          st'.saves = ⟨i, request.revision, st.file, config⟩ :: st.saves := by
  cases taken with
  | @replaced i outcome request loaded config writing replaces =>
    exact .inr ⟨i, outcome, request, loaded, config, rfl, replaces, writing, rfl⟩
  | putRefused => exact .inl (saves_receive ..)
  | discoverRefused => exact .inl (saves_receive ..)
  | putAccepted => exact .inl (saves_receive ..)
  | discoverAccepted => exact .inl (saves_receive ..)
  | scanned => exact .inl (saves_send ..)
  | called =>
    simp only [callHomeAssistant]
    split
    · exact .inl rfl
    · exact .inl (saves_send ..)
  | _ => exact .inl rfl

theorem step_advancing [DecidableEq ρ] {st' : Gui ρ} {label : GuiLabel ρ}
    (h : (st.register env).Advancing) (advances : Web.Advances env st label)
    (taken : GuiStep env st label st') : (st'.register env).Advancing := by
  unfold VersionedRegister.Advancing register at h ⊢
  obtain heq | ⟨i, outcome, request, loaded, config, rfl, replaces, writing, heq⟩ :=
    saves_step taken
  · rw [heq]
    exact h
  · rw [heq, List.map_cons, List.pairwise_cons]
    refine ⟨fun commit hcommit => ?_, h⟩
    obtain ⟨save, hsave, rfl⟩ := List.mem_map.mp hcommit
    obtain ⟨hback, hleft⟩ := advances replaces request loaded config writing save hsave
    have lifted {base : Option ρ} {v : ρ} (hne : base ≠ some v) :
        base.map some ≠ some (some v) := by
      intro heq
      obtain ⟨_, rfl, hv⟩ := Option.map_eq_some_iff.mp heq
      exact hne (congrArg some (Option.some.inj hv))
    exact ⟨lifted hback, fun same =>
      lifted (hleft (Option.map_injective (Option.some_injective ρ) same))⟩

end Gui

/-! ### What was answered -/

namespace Handler

variable [DecidableEq ρ]

/-- A handler that passed its check did so against a current file. Conflicts and successes are
answered as `NoLostUpdate` says, other errors for a draft that is refused or not written. -/
def Honest (env : GuiEnv ρ) (saves : List (Save ρ)) (i : Nat) : Handler ρ → Prop
  | writing request loaded _ => ∀ base ∈ request.revision, env.revision loaded = base
  | saved request loaded response =>
    (∀ base ∈ request.revision, (response = .error .conflict ↔ env.revision loaded ≠ base)) ∧
      (∀ view, response = .ok view →
        ∃ save ∈ saves, save.request = i ∧ save.base = request.revision) ∧
      ∀ error, response = .error error →
        checkDraft env.parseSocketAddr (draftConfig env.revision request loaded) = .error error ∨
          ∃ cause, error = .internal cause
  | _ => True

variable {env : GuiEnv ρ} {saves : List (Save ρ)} {i : Nat}

theorem Honest.cons {handler : Handler ρ} (h : handler.Honest env saves i) (save : Save ρ) :
    handler.Honest env (save :: saves) i := by
  cases handler with
  | saved request loaded response =>
    refine ⟨h.1, fun view heq => ?_, h.2.2⟩
    obtain ⟨old, hold, honest⟩ := h.2.1 view heq
    exact ⟨old, .tail _ hold, honest⟩
  | _ => exact h

theorem Honest.drop {handler : Handler ρ} (h : handler.Honest env saves i) :
    handler.drop.Honest env saves i := by
  cases handler with
  | saved => exact h
  | _ => trivial

theorem honest_of_written {request : DraftRequest ρ} {loaded config : ConfigFile} {ui : ConfigUi}
    {written : Except ConfigError Unit}
    (passed : (Handler.writing request loaded config).Honest env saves i)
    (saves_eq : written = .ok () →
      ∃ save ∈ saves, save.request = i ∧ save.base = request.revision) :
    (Handler.saved request loaded (saveResponse env.revision ui config written)).Honest env saves
      i := by
  cases written with
  | error error =>
    refine ⟨fun base carried => ⟨fun heq => ?_, fun hne => absurd (passed base carried) hne⟩, ?_,
      ?_⟩
    · cases heq
    · intro view heq
      cases heq
    · rintro _ ⟨⟩
      exact .inr ⟨error, rfl⟩
  | ok =>
    refine ⟨fun base carried => ⟨fun heq => ?_, fun hne => absurd (passed base carried) hne⟩, ?_,
      ?_⟩
    · cases heq
    · intro view _
      exact saves_eq rfl
    · intro error heq
      cases heq

end Handler

namespace Gui

variable {env : GuiEnv ρ} {st : Gui ρ}

theorem step_honest [DecidableEq ρ] {st' : Gui ρ} {label : GuiLabel ρ}
    (h : ∀ i handler, st.handlers i = some handler → handler.Honest env st.saves i)
    (taken : GuiStep env st label st') :
    ∀ i handler, st'.handlers i = some handler → handler.Honest env st'.saves i := by
  have received : ∀ request i handler, (st.receive request).handlers i = some handler →
      handler.Honest env (st.receive request).saves i := by
    intro request
    rw [handlers_receive, saves_receive]
    exact h
  have sent : ∀ url client i handler, (st.send url client).handlers i = some handler →
      handler.Honest env (st.send url client).saves i := by
    intro url client
    rw [handlers_send, saves_send]
    exact h
  cases taken with
  | putRefused => exact forall_setHandler (received _) trivial
  | discoverRefused => exact forall_setHandler (received _) trivial
  | putAccepted => exact forall_setHandler (received _) trivial
  | discoverAccepted => exact forall_setHandler (received _) trivial
  | unreadable => exact forall_setHandler h trivial
  | @rejected i request stored error saving file_eq checked =>
    refine forall_setHandler h ⟨fun base carried => ?_, fun view (heq : Except.error _ = _) => ?_, ?_⟩
    · rw [Except.error.injEq, checkDraft_error checked]
      show request.revision.any _ = true ↔ _
      rw [Option.mem_def.mp carried, Option.any_some, decide_eq_true_iff, ne_comm]
    · cases heq
    · rintro _ ⟨⟩
      exact .inl checked
  | passed saving file_eq checked =>
    refine forall_setHandler h fun base carried => ?_
    exact current_of_not_outdated (checkDraft_ok checked).2.1 carried
  | drafted => exact forall_setHandler h trivial
  | @replaced i outcome request loaded config writing replaces =>
    refine forall_setHandler (fun j other found => (h j other found).cons _) ?_
    exact Handler.honest_of_written ((h i _ writing).cons _) fun _ => ⟨_, .head _, rfl, rfl⟩
  | @notReplaced i error request loaded config writing =>
    exact forall_setHandler h (Handler.honest_of_written (h i _ writing) nofun)
  | scanned => exact forall_setHandler (sent _ _) trivial
  | called =>
    simp only [callHomeAssistant]
    split
    · exact h
    · exact sent _ _
  | statusSet => exact h
  | restarted =>
    intro j handler found
    obtain ⟨before, hbefore, rfl⟩ := Option.map_eq_some_iff.mp found
    exact (h j before hbefore).drop

/-- A save that carries another revision than that of the file is answered with a conflict. -/
theorem load_outdated [DecidableEq ρ] {i : Nat} {request : DraftRequest ρ} {stored : ConfigFile}
    {base : ρ} (saving : st.handlers i = some (.saving request))
    (file_eq : st.file = .ok stored) (carried : request.revision = some base)
    (outdated : env.revision stored ≠ base) :
    st.load env i = some (st.setHandler i (.saved request stored (.error .conflict))) := by
  have hdraft : (draftConfig env.revision request stored).outdated = true := by
    show request.revision.any _ = true
    rw [carried, Option.any_some, decide_eq_true_iff]
    exact outdated.symm
  have hchecked : checkDraft env.parseSocketAddr (draftConfig env.revision request stored) =
      .error .conflict := if_pos hdraft
  simp only [load, saving, file_eq, hchecked]

theorem noLostUpdate_of_orderly [DecidableEq ρ] (orderly : (st.register env).Orderly)
    (advancing : (st.register env).Advancing)
    (honest : ∀ i handler, st.handlers i = some handler → handler.Honest env st.saves i) :
    NoLostUpdate env st := by
  have commits (save : Save ρ) (hsave : save ∈ st.saves) :
      save.commit env ∈ (st.register env).commits := List.mem_map.mpr ⟨save, hsave, rfl⟩
  have based (save : Save ρ) (base : ρ) (hbase : save.base = some base) :
      (save.commit env).base = some (some base) := congrArg (Option.map some) hbase
  refine ⟨fun save hsave base carried => ?_, ?_, fun i request loaded response found =>
    (honest i _ found).1, ?_⟩
  · have heq := orderly.based _ (commits save hsave) (some base) (based save base carried)
    obtain ⟨config, hconfig, rfl⟩ := Option.map_eq_some_iff.mp heq.symm
    refine ⟨config, ?_, rfl⟩
    cases found_eq : save.found with
    | error => rw [found_eq] at hconfig; cases hconfig
    | ok found =>
      rw [found_eq] at hconfig
      cases hconfig
      rfl
  · intro i j hne first second _ secondLoaded firstView response hfirst hsecond base hbase hbase'
    obtain ⟨hconflict, hsucceeds, hfails⟩ := honest j _ hsecond
    cases response with
    | ok view =>
      -- both saves are commits of one version
      obtain ⟨save, hsave, rfl, base_eq⟩ := (honest i _ hfirst).2.1 firstView rfl
      obtain ⟨save', hsave', rfl, base_eq'⟩ := hsucceeds view rfl
      have distinct : save.commit env ≠ save'.commit env := by
        intro heq
        exact hne (congrArg Commit.client heq)
      exact absurd (based save' base (base_eq'.trans hbase')) (orderly.exclusive advancing
        (commits save hsave) (commits save' hsave') distinct
        (based save base (base_eq.trans hbase)))
    | error error =>
      by_cases hcurrent : env.revision secondLoaded = base
      · exact .inr ⟨hcurrent, error, rfl, hfails error rfl⟩
      · exact .inl ((hconflict base hbase').mpr hcurrent)
  · intro save hsave base carried changed i request stored saving hbase file_eq
    refine load_outdated saving file_eq hbase fun hsame => ?_
    refine orderly.moved advancing (commits save hsave) (based save base carried)
      (fun heq => changed (Option.some.inj heq)) ?_
    simp only [register, file_eq]
    exact congrArg some hsame

end Gui

/-- While no save changes the file between the check and the write of another save that carries
a revision, no save brings an older content back that a save was based on, and no two saves are
based on a content that one of them leaves unchanged, no update is lost. -/
theorem no_lost_update [DecidableEq ρ] {env : GuiEnv ρ} {ui : ConfigUi}
    {file : Except ConfigError ConfigFile} {st : Gui ρ}
    (run : (gui env ui file).ReachableWhen (InTurn env) st) : NoLostUpdate env st := by
  apply Gui.noLostUpdate_of_orderly
  · refine run.invariant (I := fun st => (st.register env).Orderly) ?_
      fun s label t h inTurn taken => ?_
    · refine ⟨fun i v heq => ?_, fun commit hmem => ?_, trivial⟩
      · cases heq
      · cases hmem
    · exact Gui.step_orderly h inTurn.1 (Gui.step_cases taken)
  · refine run.invariant (I := fun st => (st.register env).Advancing) .nil
      fun s label t h inTurn taken => ?_
    exact Gui.step_advancing h inTurn.2 (Gui.step_cases taken)
  · refine run.invariant (I := fun st => ∀ i handler, st.handlers i = some handler →
      handler.Honest env st.saves i) ?_ fun s label t h _ taken => ?_
    · intro i handler found
      cases found
    · exact Gui.step_honest h (Gui.step_cases taken)

/-- The first save, while no other request is there. -/
theorem inTurn_of_alone {env : GuiEnv ρ} {st : Gui ρ} (i : Nat) (outcome : WriteOutcome)
    (alone : ∀ j, j ≠ i → st.handlers j = none) (first : st.saves = []) :
    InTurn env st (.write i outcome) := by
  refine ⟨fun _ request loaded config _ => ?_, fun _ request loaded config _ save hsave => ?_⟩
  · right
    intro j hj other loaded' config' found
    rw [alone j hj] at found
    cases found
  · rw [first] at hsave
    cases hsave

/-! ### Two saves of one page -/

namespace Household

/-- A draft of the first file that only changes the log level. -/
def logLevelDraft (level : String) : Except ApiError (DraftRequest ConfigFile) :=
  .ok ⟨{ configUi.running with server := { logLevel := level } }, ⟨none, none⟩,
    some configUi.running⟩

/-- The second save loads the file after the first has written it. -/
def saveInTurn : List (GuiLabel ConfigFile) :=
  [.put 0 (logLevelDraft "debug"), .load 0, .write 0 .written, .put 1 (logLevelDraft "warn"),
    .load 1]

/-- Both saves load the file before either writes it. -/
def saveAtOnce : List (GuiLabel ConfigFile) :=
  [.put 0 (logLevelDraft "debug"), .put 1 (logLevelDraft "warn"), .load 0, .load 1,
    .write 0 .written, .write 1 .written]

/-- The first save leaves the file as it is. -/
def saveUnchanged : List (GuiLabel ConfigFile) :=
  [.put 0 (.ok ⟨configUi.running, ⟨none, none⟩, some configUi.running⟩), .load 0,
    .write 0 .written, .put 1 (logLevelDraft "warn"), .load 1, .write 1 .written]

end Household

open Web.Household in
theorem no_lost_update_in_turn :
    ∃ st, (gui guiEnv configUi (.ok configUi.running)).run (.new configUi (.ok configUi.running))
        saveInTurn = some st ∧
      (∃ request loaded view, st.handlers 0 = some (.saved request loaded (.ok view))) ∧
      (∃ request loaded, st.handlers 1 = some (.saved request loaded (.error .conflict))) ∧
      NoLostUpdate guiEnv st := by
  have unguarded : ∀ request i, ∀ label ∈ ([.put i request, .load i] : List (GuiLabel ConfigFile)),
      ∀ st, InTurn guiEnv st label := by
    intro request i label hlabel st
    simp only [List.mem_cons, List.not_mem_nil, or_false] at hlabel
    obtain rfl | rfl := hlabel <;> exact ⟨trivial, trivial⟩
  have start : (gui guiEnv configUi (.ok configUi.running)).ReachableWhen (InTurn guiEnv)
      (.new configUi (.ok configUi.running)) := .init
  have checked := start.of_run_forall (unguarded (logLevelDraft "debug") 0) rfl
  have written := checked.step (inTurn_of_alone 0 .written (fun j hj => by
    rw [Gui.handlers_setHandler, if_neg hj, Gui.handlers_setHandler, if_neg hj]
    rfl) rfl) rfl
  exact ⟨_, rfl, ⟨_, _, _, rfl⟩, ⟨_, _, rfl⟩, no_lost_update
    (written.of_run_forall (unguarded (logLevelDraft "warn") 1) rfl)⟩

open Web.Household in
/-- Two saves of one file both write it, at once or after one that changes nothing. -/
theorem update_lost_at_once :
    (∃ st, (gui guiEnv configUi (.ok configUi.running)).run
        (.new configUi (.ok configUi.running)) saveAtOnce = some st ∧
      ¬ NoLostUpdate guiEnv st) ∧
    ∃ st, (gui guiEnv configUi (.ok configUi.running)).run
        (.new configUi (.ok configUi.running)) saveUnchanged = some st ∧
      ¬ NoLostUpdate guiEnv st := by
  constructor
  · refine ⟨_, rfl, fun promised => ?_⟩
    obtain ⟨config, found, same⟩ := promised.based _ (.head _) configUi.running rfl
    cases found
    revert same
    decide
  · refine ⟨_, rfl, fun promised => ?_⟩
    obtain heq | ⟨-, error, heq, -⟩ :=
      promised.exclusive 0 1 (by decide) _ _ _ _ _ _ rfl rfl configUi.running rfl rfl
    · cases heq
    · cases heq

end AirSonos.Web
