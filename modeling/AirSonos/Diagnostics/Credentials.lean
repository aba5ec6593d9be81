import AirSonos.Diagnostics.Gui

/-!
# Where Home Assistant tokens go

A configuration is safe when a client built from it sends its token to the URL the file held
at the start, or sends a token that came in a request. Drafts of safe files are safe, unless a
request keeps a foreign URL and removes its token: the token of the Supervisor then takes the
place of the removed one.
-/

namespace AirSonos.Web

open HomeAssistantClient

variable {ρ : Type}

/-- Every token went to the URL `origin` or came in a request. -/
def TokensConfined (origin : Option Url) (st : Gui ρ) : Prop :=
  ∀ message ∈ st.sent, message.url = origin ∨ message.token ∈ st.tokens

/-- The request leaves the URL of the file as it is, and removes the token that was sent for it
although the Supervisor's is set. -/
def RemovesToken (env : GuiEnv ρ) (origin : Option Url) (request : DraftRequest ρ)
    (stored : ConfigFile) : Prop :=
  request.secrets.homeAssistantToken = some "" ∧ isSet env.supervisorToken = true ∧
    stored.homeAssistant.url = request.config.homeAssistant.url ∧
    request.config.homeAssistant.url.isSome ∧ request.config.homeAssistant.url ≠ origin

instance (env : GuiEnv ρ) (origin : Option Url) (request : DraftRequest ρ)
    (stored : ConfigFile) : Decidable (RemovesToken env origin request stored) :=
  inferInstanceAs (Decidable (_ ∧ _ ∧ _ ∧ _ ∧ _))

section Guard

variable [DecidableEq ρ] (env : GuiEnv ρ) (origin : Option Url)

/-- A request that removes the token of a foreign URL is no scan, and no save of a valid draft
of the current revision. -/
def Handler.KeepsToken (stored : ConfigFile) : Handler ρ → Prop
  | saving request =>
    RemovesToken env origin request stored →
      request.outdated env.revision stored = true ∨
        request.config.validate env.parseSocketAddr ≠ .ok ()
  | discovering request => ¬ RemovesToken env origin request stored
  | _ => True

instance (stored : ConfigFile) : (handler : Handler ρ) →
    Decidable (handler.KeepsToken env origin stored)
  | .saving _ => inferInstanceAs (Decidable (_ → _ ∨ _))
  | .discovering _ => inferInstanceAs (Decidable (¬ _))
  | .writing _ _ _ | .saved _ _ _ | .scanning _ | .discovered _ | .failed _ | .dropped =>
    .isTrue trivial

def KeepsTokens (st : Gui ρ) : GuiLabel ρ → Prop
  | .load i =>
    ∀ stored ∈ st.file.toOption, ∀ handler ∈ st.handlers i,
      handler.KeepsToken env origin stored
  | _ => True

instance (st : Gui ρ) : (label : GuiLabel ρ) → Decidable (KeepsTokens env origin st label)
  | .load i =>
    inferInstanceAs (Decidable (∀ stored ∈ st.file.toOption, ∀ handler ∈ st.handlers i,
      handler.KeepsToken env origin stored))
  | .put _ _ | .discover _ _ | .write _ _ | .scan _ _ | .callHomeAssistant | .setStatus _
  | .restart _ => .isTrue trivial

end Guard

/-! ### Safe configurations -/

def SafeConfig (env : GuiEnv ρ) (origin : Option Url) (tokens : List String)
    (config : HomeAssistantConfig) : Prop :=
  config.url = origin ∨
    ∀ token, config.url.isSome → credential env.supervisorToken config = some token →
      token ∈ tokens

variable {env : GuiEnv ρ} {origin : Option Url} {tokens : List String}

theorem SafeConfig.mono {tokens' : List String} {config : HomeAssistantConfig}
    (more : tokens ⊆ tokens') (h : SafeConfig env origin tokens config) :
    SafeConfig env origin tokens' config := by
  obtain same | came := h
  · exact .inl same
  · exact .inr fun token url_set heq => more (came token url_set heq)

theorem safeConfig_of_no_url {config : HomeAssistantConfig} (h : config.url.isSome = false) :
    SafeConfig env origin tokens config :=
  .inr fun _ url_set => by rw [h] at url_set; cases url_set

theorem credential_of_token {supervisorToken : Option String} {config : HomeAssistantConfig}
    {token : String} (set : config.token = some token) (nonempty : token ≠ "") :
    credential supervisorToken config = some token := by
  simp [credential, set, nonempty]

theorem credential_of_no_token {supervisorToken : Option String} {config : HomeAssistantConfig}
    (unset : config.token = none) :
    credential supervisorToken config = supervisorToken.filter (· ≠ "") := by
  simp [credential, unset]

/-- A token that came in the request makes the draft safe, whatever its URL. -/
theorem safeConfig_of_sent {config : HomeAssistantConfig} {token : String}
    (set : config.token = some token) (nonempty : token ≠ "") (came : token ∈ tokens) :
    SafeConfig env origin tokens config := by
  refine .inr fun other _ heq => ?_
  rw [credential_of_token set nonempty] at heq
  cases heq
  exact came

theorem safeConfig_congr {config other : HomeAssistantConfig} (url : config.url = other.url)
    (token : config.token = other.token) (h : SafeConfig env origin tokens config) :
    SafeConfig env origin tokens other := by
  unfold SafeConfig credential at h ⊢
  rw [← url, ← token]
  exact h

/-- Without a configured token, the URL gets the token of the Supervisor. -/
theorem safeConfig_of_removed {config : HomeAssistantConfig} (unset : config.token = none)
    (kept : isSet env.supervisorToken = true → config.url.isSome → config.url = origin) :
    SafeConfig env origin tokens config := by
  by_cases foreign : config.url = origin
  · exact .inl foreign
  · refine .inr fun token url_set heq => ?_
    rw [credential_of_no_token unset] at heq
    obtain ⟨supervisor, nonempty⟩ := Option.filter_eq_some_iff.mp heq
    refine absurd (kept ?_ url_set) foreign
    rw [isSet, supervisor]
    exact nonempty

theorem draft_safe [DecidableEq ρ] {request : DraftRequest ρ} {stored : ConfigFile}
    (safe : SafeConfig env origin tokens stored.homeAssistant)
    (came : ∀ token ∈ request.secrets.homeAssistantToken, token ∈ tokens)
    (keeps : ¬ RemovesToken env origin request stored) :
    (draftConfig env.revision request stored).newHaUrlWithoutToken = true ∨
      SafeConfig env origin tokens
        (draftConfig env.revision request stored).config.homeAssistant := by
  cases change : request.secrets.homeAssistantToken with
  | none =>
    by_cases same : request.config.homeAssistant.url = stored.homeAssistant.url
    · refine .inr (safeConfig_congr same.symm ?_ safe)
      simp [draftConfig, update, change, same]
    · exact .inl (by simp [draftConfig, change, same, isSet])
  | some token =>
    by_cases nonempty : token = ""
    · subst nonempty
      by_cases same : request.config.homeAssistant.url = stored.homeAssistant.url
      · refine .inr (safeConfig_of_removed (by simp [draftConfig, update, change]) ?_)
        intro supervisor url_set
        by_contra foreign
        exact keeps ⟨change, supervisor, same.symm, url_set, foreign⟩
      · exact .inl (by simp [draftConfig, change, same, isSet])
    · have sent : (draftConfig env.revision request stored).config.homeAssistant.token =
          some token := by
        simp [draftConfig, update, change, nonempty]
      exact .inr (safeConfig_of_sent sent nonempty (came token change))

/-! ### What a save lets through -/

theorem checked_safe [DecidableEq ρ] {request : DraftRequest ρ} {stored config : ConfigFile}
    (safe : SafeConfig env origin tokens stored.homeAssistant)
    (came : ∀ token ∈ request.secrets.homeAssistantToken, token ∈ tokens)
    (keeps : RemovesToken env origin request stored →
      request.outdated env.revision stored = true ∨
        request.config.validate env.parseSocketAddr ≠ .ok ())
    (checked : checkDraft env.parseSocketAddr (draftConfig env.revision request stored) =
      .ok config) :
    SafeConfig env origin tokens config.homeAssistant := by
  obtain ⟨rfl, current, url_unset, valid⟩ := checkDraft_ok checked
  have hkeeps : ¬ RemovesToken env origin request stored := by
    intro removes
    obtain outdated | invalid := keeps removes
    · exact absurd (current.symm.trans outdated) Bool.false_ne_true
    · exact invalid valid
  obtain new | hsafe := draft_safe safe came hkeeps
  · exact safeConfig_of_no_url (url_unset new)
  · exact hsafe

/-! ### Every state of a run -/

namespace Handler

/-- What a handler holds is safe. -/
def Safe (env : GuiEnv ρ) (origin : Option Url) (tokens : List String) : Handler ρ → Prop
  | saving request => ∀ token ∈ request.secrets.homeAssistantToken, token ∈ tokens
  | discovering request => ∀ token ∈ request.secrets.homeAssistantToken, token ∈ tokens
  | writing _ _ config => SafeConfig env origin tokens config.homeAssistant
  | scanning draft =>
    draft.newHaUrlWithoutToken = true ∨
      SafeConfig env origin tokens draft.config.homeAssistant
  | _ => True

theorem Safe.mono {tokens' : List String} (more : tokens ⊆ tokens') {handler : Handler ρ}
    (h : handler.Safe env origin tokens) : handler.Safe env origin tokens' := by
  cases handler with
  | saving request => exact fun token hmem => more (h token hmem)
  | discovering request => exact fun token hmem => more (h token hmem)
  | writing request loaded config => exact SafeConfig.mono more h
  | scanning draft => exact h.imp_right (SafeConfig.mono more)
  | _ => trivial

theorem Safe.drop {handler : Handler ρ} : handler.drop.Safe env origin tokens := by
  cases handler <;> trivial

end Handler

structure Confined (env : GuiEnv ρ) (origin : Option Url) (st : Gui ρ) : Prop where
  file : ∀ config, st.file = .ok config → SafeConfig env origin st.tokens config.homeAssistant
  running : SafeConfig env origin st.tokens st.ui.running.homeAssistant
  handlers : ∀ i handler, st.handlers i = some handler → handler.Safe env origin st.tokens
  sent : TokensConfined origin st

namespace Confined

variable {st : Gui ρ} {i : Nat}

theorem setHandler (h : Confined env origin st) {handler : Handler ρ}
    (safe : handler.Safe env origin st.tokens) : Confined env origin (st.setHandler i handler) where
  file := h.file
  running := h.running
  sent := h.sent
  handlers := Gui.forall_setHandler h.handlers safe

theorem receive (h : Confined env origin st) (request : Except ApiError (DraftRequest ρ)) :
    Confined env origin (st.receive request) := by
  have more := st.tokens_receive_subset request
  cases request with
  | error => exact h
  | ok request =>
    exact
      { file := fun config heq => (h.file config heq).mono more
        running := h.running.mono more
        handlers := fun j handler found => (h.handlers j handler found).mono more
        sent := fun message hmem => (h.sent message hmem).imp_right fun came => more came }

theorem send (h : Confined env origin st) {config : HomeAssistantConfig}
    {client : Option (Except HomeAssistantError HomeAssistantClient)}
    (safe : ∀ client', client = some (.ok client') →
      config.url = origin ∨ client'.token ∈ st.tokens) :
    Confined env origin (st.send config.url client) := by
  obtain ⟨sent, heq, hsent⟩ := st.send_eq config.url client
  rw [heq]
  refine ⟨h.file, h.running, h.handlers, fun message hmem => ?_⟩
  obtain hold | ⟨url_eq, client', client_eq, token_eq⟩ := hsent message hmem
  · exact h.sent message hold
  · rw [url_eq, token_eq]
    exact safe client' client_eq

theorem client_safe {config : HomeAssistantConfig} {client : HomeAssistantClient}
    (safe : SafeConfig env origin tokens config)
    (built : fromConfig env.apiUrl env.supervisorToken config = .ok client) :
    config.url = origin ∨ client.token ∈ tokens := by
  obtain ⟨url_set, token_eq⟩ := token_of_fromConfig built
  exact safe.imp_right fun came => came _ url_set token_eq

theorem scan (h : Confined env origin st) {draft : Draft}
    (safe : (Handler.scanning (ρ := ρ) draft).Safe env origin st.tokens) :
    Confined env origin
      (st.send draft.config.homeAssistant.url (draft.client env.apiUrl env.supervisorToken)) := by
  apply h.send
  intro client client_eq
  unfold Draft.client at client_eq
  split at client_eq
  · cases client_eq
  · case isFalse asks =>
    rw [Bool.or_eq_true, not_or] at asks
    obtain new | hsafe := safe
    · exact absurd new asks.2
    · exact client_safe hsafe (Option.some.inj client_eq)

theorem step [DecidableEq ρ] {st' : Gui ρ} {label : GuiLabel ρ} (h : Confined env origin st)
    (keeps : KeepsTokens env origin st label) (taken : GuiStep env st label st') :
    Confined env origin st' := by
  cases taken with
  | putRefused => exact (h.receive _).setHandler trivial
  | discoverRefused => exact (h.receive _).setHandler trivial
  | putAccepted =>
    refine (h.receive _).setHandler fun token hmem => ?_
    exact List.mem_append_left _ (Option.mem_toList.mpr hmem)
  | discoverAccepted =>
    refine (h.receive _).setHandler fun token hmem => ?_
    exact List.mem_append_left _ (Option.mem_toList.mpr hmem)
  | unreadable => exact h.setHandler trivial
  | rejected => exact h.setHandler trivial
  | passed saving file_eq checked =>
    have hkeeps := keeps _ (by rw [file_eq]; rfl) _ saving
    exact h.setHandler (checked_safe (h.file _ file_eq) (h.handlers _ _ saving) hkeeps checked)
  | drafted discovering file_eq =>
    have hkeeps := keeps _ (by rw [file_eq]; rfl) _ discovering
    exact h.setHandler (draft_safe (h.file _ file_eq) (h.handlers _ _ discovering) hkeeps)
  | @replaced i outcome request loaded config writing replaces =>
    refine Confined.setHandler ?_ trivial
    refine ⟨fun other heq => ?_, h.running, h.handlers, h.sent⟩
    cases heq
    exact h.handlers i _ writing
  | notReplaced => exact h.setHandler trivial
  | scanned scanning => exact (h.scan (h.handlers _ _ scanning)).setHandler trivial
  | called =>
    simp only [Gui.callHomeAssistant]
    split
    · exact h
    · exact h.send fun client client_eq => client_safe h.running (Option.some.inj client_eq)
  | statusSet => exact ⟨h.file, h.running, h.handlers, h.sent⟩
  | restarted file_eq =>
    refine ⟨h.file, h.file _ file_eq, fun j handler found => ?_, h.sent⟩
    obtain ⟨before, -, rfl⟩ := Option.map_eq_some_iff.mp found
    exact Handler.Safe.drop

end Confined

/-- As long as no request removes the token of a URL that a request brought, no token follows
a URL that a request brought. -/
theorem tokens_confined [DecidableEq ρ] {env : GuiEnv ρ} {ui : ConfigUi} {st : Gui ρ}
    (run : (gui env ui (.ok ui.running)).ReachableWhen
      (KeepsTokens env ui.running.homeAssistant.url) st) :
    TokensConfined ui.running.homeAssistant.url st := by
  refine (run.invariant (I := Confined env ui.running.homeAssistant.url) ?_ ?_).sent
  · refine ⟨fun config heq => ?_, .inl rfl, fun i handler found => ?_, fun message hmem => ?_⟩
    · cases heq
      exact .inl rfl
    · cases found
    · cases hmem
  · intro s label t h keeps taken
    exact h.step keeps (Gui.step_cases taken)

/-! ### A moved URL -/

namespace Household

def draftAt (url : String) (token : Option String) : Except ApiError (DraftRequest ConfigFile) :=
  .ok ⟨configAt url none, ⟨token, none⟩, none⟩

def network : Network where
  zones := .ok []
  mediaPlayers := fun _ => .ok []

/-- A save moves the URL and brings a token, and a later scan sends `token` in its place. -/
def movesThenScans (token : Option String) : List (GuiLabel ConfigFile) :=
  [.put 0 (draftAt "http://attacker.example/" (some "brought")), .load 0, .write 0 .written,
    .discover 1 (draftAt "http://attacker.example/" token), .load 1, .scan 1 network]

end Household

open Web.Household in
theorem tokens_confined_at_home :
    ∃ st, (gui guiEnv configUi (.ok configUi.running)).runWhen
        (KeepsTokens guiEnv configUi.running.homeAssistant.url)
        (.new configUi (.ok configUi.running)) (movesThenScans none) = some st ∧
      st.sent = [⟨some ⟨"http://attacker.example/"⟩, "brought"⟩] ∧
      TokensConfined configUi.running.homeAssistant.url st := by
  obtain ⟨st, hrun, hsent⟩ : ∃ st, (gui guiEnv configUi (.ok configUi.running)).runWhen
      (KeepsTokens guiEnv configUi.running.homeAssistant.url)
      (.new configUi (.ok configUi.running)) (movesThenScans none) = some st ∧
      st.sent = [⟨some ⟨"http://attacker.example/"⟩, "brought"⟩] := ⟨_, rfl, rfl⟩
  exact ⟨st, hrun, hsent, tokens_confined (TransitionSystem.ReachableWhen.of_runWhen .init hrun)⟩

open Web.Household in
theorem supervisor_token_sent :
    ∃ st, (gui guiEnv configUi (.ok configUi.running)).run (.new configUi (.ok configUi.running))
        (movesThenScans (some "")) = some st ∧
      ¬ TokensConfined configUi.running.homeAssistant.url st := by
  refine ⟨_, rfl, fun confined => ?_⟩
  obtain same | came := confined ⟨some ⟨"http://attacker.example/"⟩, "supervisor"⟩ (.head _)
  · revert same
    decide
  · revert came
    decide

end AirSonos.Web
