import AirSonos.Diagnostics.Web
import AirSonos.Lib.TransitionSystem

/-!
# The web GUI beside the config file

Requests are numbered as they arrive. A handler leaves the GUI free between its steps: a save
loads the file and checks the draft, then writes the file; a scan loads the file, then calls
Home Assistant. The running bridge calls Home Assistant with the configuration it started
with. A restart drops the handlers and starts from the file.
-/

namespace AirSonos.Web

/-- Everything outside the GUI. A written configuration is read back as it was. -/
structure GuiEnv (ρ : Type) where
  revision : ConfigFile → ρ
  parseSocketAddr : String → Option SocketAddr
  apiUrl : Url → Option Url
  supervisorToken : Option String

/-- What `write_to_path` does: a failure comes before the rename or, when the directory cannot
be synced, after it. -/
inductive WriteOutcome
  | written
  | notReplaced (error : ConfigError)
  | notDurable (error : ConfigError)
deriving DecidableEq

namespace WriteOutcome

def replaces : WriteOutcome → Bool
  | written => true
  | notReplaced _ => false
  | notDurable _ => true

def result : WriteOutcome → Except ConfigError Unit
  | written => .ok ()
  | notReplaced error => .error error
  | notDurable error => .error error

end WriteOutcome

/-- Where the handler of a request stands. A handler that has checked its draft remembers the
configuration it loaded. -/
inductive Handler (ρ : Type)
  | saving (request : DraftRequest ρ)
  | writing (request : DraftRequest ρ) (loaded config : ConfigFile)
  | saved (request : DraftRequest ρ) (loaded : ConfigFile)
      (response : Except ApiError (ConfigView ρ))
  | discovering (request : DraftRequest ρ)
  | scanning (draft : Draft)
  | discovered (discovery : Discovery)
  | failed (error : ApiError)
  | dropped

def Handler.drop {ρ : Type} : Handler ρ → Handler ρ
  | saved request loaded response => saved request loaded response
  | discovered discovery => discovered discovery
  | failed error => failed error
  | _ => dropped

/-- A replaced file: the request, what the file held before and what it holds now. -/
structure Save (ρ : Type) where
  request : Nat
  base : Option ρ
  found : Except ConfigError ConfigFile
  left : ConfigFile

/-- A token sent to a Home Assistant URL. -/
structure Sent where
  url : Option Url
  token : String
deriving DecidableEq

/-- The logs `tokens`, `sent` and `saves` hold the newest entry first. -/
structure Gui (ρ : Type) where
  file : Except ConfigError ConfigFile
  ui : ConfigUi
  handlers : Nat → Option (Handler ρ)
  tokens : List String
  sent : List Sent
  saves : List (Save ρ)

inductive GuiLabel (ρ : Type)
  | put (i : Nat) (request : Except ApiError (DraftRequest ρ))
  | discover (i : Nat) (request : Except ApiError (DraftRequest ρ))
  | load (i : Nat)
  | write (i : Nat) (outcome : WriteOutcome)
  | scan (i : Nat) (network : Network)
  | callHomeAssistant
  | setStatus (status : BridgeStatus)
  | restart (startedAtMs : Nat)

namespace Gui

variable {ρ : Type}

def new (ui : ConfigUi) (file : Except ConfigError ConfigFile) : Gui ρ where
  file := file
  ui := ui
  handlers := fun _ => none
  tokens := []
  sent := []
  saves := []

def setHandler (st : Gui ρ) (i : Nat) (handler : Handler ρ) : Gui ρ :=
  { st with handlers := Function.update st.handlers i (some handler) }

def receive (st : Gui ρ) (request : Except ApiError (DraftRequest ρ)) : Gui ρ :=
  match request with
  | .error _ => st
  | .ok request => { st with tokens := request.secrets.homeAssistantToken.toList ++ st.tokens }

/-- Sends the token of a client that could be built. -/
def send (st : Gui ρ) (url : Option Url)
    (client : Option (Except HomeAssistantError HomeAssistantClient)) : Gui ρ :=
  match client with
  | some (.ok client) => { st with sent := ⟨url, client.token⟩ :: st.sent }
  | _ => st

def replaceFile (st : Gui ρ) (i : Nat) (base : Option ρ) (config : ConfigFile) : Gui ρ :=
  { st with file := .ok config, saves := ⟨i, base, st.file, config⟩ :: st.saves }

def put (st : Gui ρ) (i : Nat) (request : Except ApiError (DraftRequest ρ)) :
    Option (Gui ρ) :=
  match st.handlers i with
  | some _ => none
  | none =>
    match saveRequested st.ui request with
    | .error error => some ((st.receive request).setHandler i (.failed error))
    | .ok draft => some ((st.receive request).setHandler i (.saving draft))

def postDiscover (st : Gui ρ) (i : Nat) (request : Except ApiError (DraftRequest ρ)) :
    Option (Gui ρ) :=
  match st.handlers i with
  | some _ => none
  | none =>
    match request with
    | .error error => some ((st.receive request).setHandler i (.failed error))
    | .ok draft => some ((st.receive request).setHandler i (.discovering draft))

variable (env : GuiEnv ρ)

def scan (st : Gui ρ) (i : Nat) (network : Network) : Option (Gui ρ) :=
  match st.handlers i with
  | some (.scanning draft) =>
    some ((st.send draft.config.homeAssistant.url (draft.client env.apiUrl env.supervisorToken)
      ).setHandler i (.discovered
        (Web.discover env.apiUrl env.supervisorToken draft network)))
  | _ => none

/-- `home_assistant_renderers` builds one client for the life of the process. -/
def callHomeAssistant (st : Gui ρ) : Gui ρ :=
  let config := st.ui.running.homeAssistant
  if config.mediaPlayers = [] then st
  else
    st.send config.url
      (some (HomeAssistantClient.fromConfig env.apiUrl env.supervisorToken config))

def write (st : Gui ρ) (i : Nat) (outcome : WriteOutcome) : Option (Gui ρ) :=
  match st.handlers i with
  | some (.writing request loaded config) =>
    let st := if outcome.replaces then st.replaceFile i request.revision config else st
    some (st.setHandler i
      (.saved request loaded (saveResponse env.revision st.ui config outcome.result)))
  | _ => none

/-- A bridge that cannot read its file does not start. -/
def restart (st : Gui ρ) (startedAtMs : Nat) : Option (Gui ρ) :=
  match st.file with
  | .error _ => none
  | .ok config =>
    some { st with
      ui := { st.ui with running := config, startedAtMs := startedAtMs, status := .starting }
      handlers := fun i => (st.handlers i).map Handler.drop }

variable [DecidableEq ρ]

def load (st : Gui ρ) (i : Nat) : Option (Gui ρ) :=
  match st.handlers i with
  | some (.saving request) =>
    match st.file with
    | .error error => some (st.setHandler i (.failed (.internal error)))
    | .ok stored =>
      match checkDraft env.parseSocketAddr (draftConfig env.revision request stored) with
      | .error error => some (st.setHandler i (.saved request stored (.error error)))
      | .ok config => some (st.setHandler i (.writing request stored config))
  | some (.discovering request) =>
    match st.file with
    | .error error => some (st.setHandler i (.failed (.internal error)))
    | .ok stored =>
      some (st.setHandler i (.scanning (draftConfig env.revision request stored)))
  | _ => none

def step (st : Gui ρ) : GuiLabel ρ → Option (Gui ρ)
  | .put i request => st.put i request
  | .discover i request => st.postDiscover i request
  | .load i => st.load env i
  | .write i outcome => st.write env i outcome
  | .scan i network => st.scan env i network
  | .callHomeAssistant => some (st.callHomeAssistant env)
  | .setStatus status => some { st with ui := { st.ui with status := status } }
  | .restart startedAtMs => st.restart startedAtMs

end Gui

def gui {ρ : Type} [DecidableEq ρ] (env : GuiEnv ρ) (ui : ConfigUi)
    (file : Except ConfigError ConfigFile) : TransitionSystem (Gui ρ) (GuiLabel ρ) where
  init := .new ui file
  step := Gui.step env

/-! ### What a step does -/

/-- Every step, with what held before it. -/
inductive GuiStep {ρ : Type} [DecidableEq ρ] (env : GuiEnv ρ) (st : Gui ρ) :
    GuiLabel ρ → Gui ρ → Prop
  | putRefused {i : Nat} {request : Except ApiError (DraftRequest ρ)} {error : ApiError}
      (fresh : st.handlers i = none) :
      GuiStep env st (.put i request) ((st.receive request).setHandler i (.failed error))
  | discoverRefused {i : Nat} {request : Except ApiError (DraftRequest ρ)} {error : ApiError}
      (fresh : st.handlers i = none) :
      GuiStep env st (.discover i request) ((st.receive request).setHandler i (.failed error))
  | putAccepted {i : Nat} {request : DraftRequest ρ} (fresh : st.handlers i = none) :
      GuiStep env st (.put i (.ok request))
        ((st.receive (.ok request)).setHandler i (.saving request))
  | discoverAccepted {i : Nat} {request : DraftRequest ρ} (fresh : st.handlers i = none) :
      GuiStep env st (.discover i (.ok request))
        ((st.receive (.ok request)).setHandler i (.discovering request))
  | unreadable {i : Nat} {error : ConfigError} {request : DraftRequest ρ}
      (loading : st.handlers i = some (.saving request) ∨
        st.handlers i = some (.discovering request)) (file_eq : st.file = .error error) :
      GuiStep env st (.load i) (st.setHandler i (.failed (.internal error)))
  | rejected {i : Nat} {request : DraftRequest ρ} {stored : ConfigFile} {error : ApiError}
      (saving : st.handlers i = some (.saving request)) (file_eq : st.file = .ok stored)
      (checked : checkDraft env.parseSocketAddr (draftConfig env.revision request stored) =
        .error error) :
      GuiStep env st (.load i) (st.setHandler i (.saved request stored (.error error)))
  | passed {i : Nat} {request : DraftRequest ρ} {stored config : ConfigFile}
      (saving : st.handlers i = some (.saving request)) (file_eq : st.file = .ok stored)
      (checked : checkDraft env.parseSocketAddr (draftConfig env.revision request stored) =
        .ok config) :
      GuiStep env st (.load i) (st.setHandler i (.writing request stored config))
  | drafted {i : Nat} {request : DraftRequest ρ} {stored : ConfigFile}
      (discovering : st.handlers i = some (.discovering request))
      (file_eq : st.file = .ok stored) :
      GuiStep env st (.load i)
        (st.setHandler i (.scanning (draftConfig env.revision request stored)))
  | replaced {i : Nat} {outcome : WriteOutcome} {request : DraftRequest ρ}
      {loaded config : ConfigFile} (writing : st.handlers i = some (.writing request loaded config))
      (replaces : outcome.replaces = true) :
      GuiStep env st (.write i outcome)
        ((st.replaceFile i request.revision config).setHandler i
          (.saved request loaded (saveResponse env.revision st.ui config outcome.result)))
  | notReplaced {i : Nat} {error : ConfigError} {request : DraftRequest ρ}
      {loaded config : ConfigFile}
      (writing : st.handlers i = some (.writing request loaded config)) :
      GuiStep env st (.write i (.notReplaced error))
        (st.setHandler i
          (.saved request loaded (saveResponse env.revision st.ui config (.error error))))
  | scanned {i : Nat} {network : Network} {draft : Draft}
      (scanning : st.handlers i = some (.scanning draft)) :
      GuiStep env st (.scan i network)
        ((st.send draft.config.homeAssistant.url
          (draft.client env.apiUrl env.supervisorToken)).setHandler i
            (.discovered (Web.discover env.apiUrl env.supervisorToken draft network)))
  | called : GuiStep env st .callHomeAssistant (st.callHomeAssistant env)
  | statusSet {status : BridgeStatus} :
      GuiStep env st (.setStatus status) { st with ui := { st.ui with status := status } }
  | restarted {startedAtMs : Nat} {config : ConfigFile} (file_eq : st.file = .ok config) :
      GuiStep env st (.restart startedAtMs)
        { st with
          ui := { st.ui with running := config, startedAtMs := startedAtMs, status := .starting }
          handlers := fun i => (st.handlers i).map Handler.drop }

theorem Gui.step_cases {ρ : Type} [DecidableEq ρ] {env : GuiEnv ρ} {st st' : Gui ρ}
    {label : GuiLabel ρ} (h : st.step env label = some st') : GuiStep env st label st' := by
  cases label with
  | put i request =>
    simp only [Gui.step, Gui.put] at h
    split at h
    · cases h
    · case h_2 fresh =>
      split at h
      · cases h
        exact .putRefused fresh
      · case h_2 draft accepted =>
        cases h
        unfold saveRequested at accepted
        split at accepted
        · cases accepted
        · subst accepted
          exact .putAccepted fresh
  | discover i request =>
    simp only [Gui.step, Gui.postDiscover] at h
    split at h
    · cases h
    · case h_2 fresh =>
      split at h
      · cases h
        exact .discoverRefused fresh
      · cases h
        exact .discoverAccepted fresh
  | load i =>
    simp only [Gui.step, Gui.load] at h
    split at h
    · case h_1 saving =>
      split at h
      · case h_1 file_eq =>
        cases h
        exact .unreadable (.inl saving) file_eq
      · case h_2 file_eq =>
        split at h
        · case h_1 checked =>
          cases h
          exact .rejected saving file_eq checked
        · case h_2 checked =>
          cases h
          exact .passed saving file_eq checked
    · case h_2 discovering =>
      split at h
      · case h_1 file_eq =>
        cases h
        exact .unreadable (.inr discovering) file_eq
      · case h_2 file_eq =>
        cases h
        exact .drafted discovering file_eq
    · cases h
  | write i outcome =>
    simp only [Gui.step, Gui.write] at h
    split at h
    · case h_1 writing =>
      cases h
      cases outcome with
      | notReplaced error => exact .notReplaced writing
      | written => exact .replaced writing rfl
      | notDurable error =>
        have replaces : (WriteOutcome.notDurable error).replaces = true := rfl
        exact .replaced writing replaces
    · cases h
  | scan i network =>
    simp only [Gui.step, Gui.scan] at h
    split at h
    · case h_1 scanning =>
      cases h
      exact .scanned scanning
    · cases h
  | callHomeAssistant =>
    cases h
    exact .called
  | setStatus status =>
    cases h
    exact .statusSet
  | restart startedAtMs =>
    simp only [Gui.step, Gui.restart] at h
    split at h
    · cases h
    · case h_2 file_eq =>
      cases h
      exact .restarted file_eq

/-! ### Frames -/

namespace Gui

variable {ρ : Type} (st : Gui ρ) (i : Nat)

theorem handlers_setHandler (handler : Handler ρ) (j : Nat) :
    (st.setHandler i handler).handlers j = if j = i then some handler else st.handlers j :=
  Function.update_apply _ _ _ _

/-- What holds of every handler still does when one moves on. -/
theorem forall_setHandler {st : Gui ρ} {i : Nat} {P : Nat → Handler ρ → Prop}
    {handler : Handler ρ} (h : ∀ j other, st.handlers j = some other → P j other)
    (new : P i handler) :
    ∀ j other, (st.setHandler i handler).handlers j = some other → P j other := by
  intro j other found
  rw [handlers_setHandler] at found
  split at found
  · case isTrue heq =>
    cases found
    rw [heq]
    exact new
  · exact h j other found

@[simp] theorem handlers_receive (request : Except ApiError (DraftRequest ρ)) :
    (st.receive request).handlers = st.handlers := by
  cases request <;> rfl

@[simp] theorem file_receive (request : Except ApiError (DraftRequest ρ)) :
    (st.receive request).file = st.file := by
  cases request <;> rfl

@[simp] theorem saves_receive (request : Except ApiError (DraftRequest ρ)) :
    (st.receive request).saves = st.saves := by
  cases request <;> rfl

theorem tokens_receive_subset (request : Except ApiError (DraftRequest ρ)) :
    st.tokens ⊆ (st.receive request).tokens := by
  cases request with
  | error => exact List.Subset.refl _
  | ok request => exact List.subset_append_right _ _

variable (url : Option Url)
  (client : Option (Except HomeAssistantError HomeAssistantClient))

@[simp] theorem handlers_send : (st.send url client).handlers = st.handlers := by
  unfold send
  split <;> rfl

@[simp] theorem file_send : (st.send url client).file = st.file := by
  unfold send
  split <;> rfl

@[simp] theorem saves_send : (st.send url client).saves = st.saves := by
  unfold send
  split <;> rfl

theorem send_eq :
    ∃ sent, st.send url client = { st with sent } ∧
      ∀ message ∈ sent, message ∈ st.sent ∨
        message.url = url ∧ ∃ client', client = some (.ok client') ∧
          message.token = client'.token := by
  unfold send
  split
  · case h_1 client' =>
    refine ⟨_, rfl, fun message hmem => ?_⟩
    obtain rfl | hold := List.mem_cons.mp hmem
    · exact .inr ⟨rfl, client', rfl, rfl⟩
    · exact .inl hold
  · exact ⟨st.sent, rfl, fun message hmem => .inl hmem⟩

end Gui

namespace Household

/-- The revision of a file is its content. -/
def guiEnv : GuiEnv ConfigFile where
  revision := fun config => config
  parseSocketAddr := fun _ => some ⟨.v4 0, 9100⟩
  apiUrl := fun url => some ⟨url.serialization ++ "api/"⟩
  supervisorToken := some "supervisor"

def configAt (url : String) (token : Option String) : ConfigFile :=
  { homeAssistant := { url := some ⟨url⟩, token } }

def configUi : ConfigUi where
  path := "/etc/airsonos2/config.toml"
  readOnly := false
  running := configAt "http://ha.local:8123/" (some "stored")
  startedAtMs := 0
  status := .starting

end Household

end AirSonos.Web
