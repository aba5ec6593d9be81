import AirSonos.Diagnostics.Gui

/-!
# What the responses of the GUI depend on

Two configurations are alike when they differ only in the values of their secrets. The
responses made from files with alike configurations are the same, but for the fields that tell
of the content. The reader of TOML is a parameter.
-/

namespace AirSonos

namespace ConfigFile

def fromTomlStr (parseSocketAddr : String → Option SocketAddr)
    (toml : String → Except String ConfigFile) (contents : String) :
    Except ConfigError ConfigFile :=
  match toml contents with
  | .error source => .error (.parse source)
  | .ok config =>
    match config.validate parseSocketAddr with
    | .error error => .error error
    | .ok () => .ok config

/-- `contents` is what `read_to_string` returns. -/
def fromPath (parseSocketAddr : String → Option SocketAddr)
    (toml : String → Except String ConfigFile) (path : String)
    (contents : Except String String) : Except ConfigError ConfigFile :=
  match contents with
  | .error source => .error (.read path source)
  | .ok contents => fromTomlStr parseSocketAddr toml contents

def withoutSecrets (config : ConfigFile) : ConfigFile :=
  { config with
    homeAssistant := { config.homeAssistant with token := none }
    airplay := { config.airplay with rtspPassword := none } }

end ConfigFile

namespace Web

variable {ρ : Type}

/-- The handler of a save from its first step to its last, with the file that it loads and
what becomes of the write. -/
def saveConfig [DecidableEq ρ] (env : GuiEnv ρ) (ui : ConfigUi)
    (request : Except ApiError (DraftRequest ρ)) (file : Except ConfigError ConfigFile)
    (outcome : WriteOutcome) : Except ApiError (ConfigView ρ) := do
  let request ← saveRequested ui request
  let stored ← file.mapError .internal
  let config ← checkDraft env.parseSocketAddr (draftConfig env.revision request stored)
  saveResponse env.revision ui config outcome.result

/-- The handler of a scan. -/
def discoverConfig [DecidableEq ρ] (env : GuiEnv ρ) (request : Except ApiError (DraftRequest ρ))
    (file : Except ConfigError ConfigFile) (network : Network) : Except ApiError Discovery := do
  let request ← request
  let stored ← file.mapError .internal
  return discover env.apiUrl env.supervisorToken (draftConfig env.revision request stored) network

/-- A view without the fields that tell of the content of the file. -/
def ConfigView.masked (view : ConfigView ρ) : ConfigView Unit :=
  { view with restartRequired := false, revision := () }

/-! ### Configurations that differ in their secrets -/

structure Alike (first second : ConfigFile) : Prop where
  rest : first.withoutSecrets = second.withoutSecrets
  token : isSet first.homeAssistant.token = isSet second.homeAssistant.token
  rtspPassword : isSet first.airplay.rtspPassword = isSet second.airplay.rtspPassword

variable {first second : ConfigFile}

theorem Alike.validate (h : Alike first second) (parseSocketAddr : String → Option SocketAddr) :
    first.validate parseSocketAddr = second.validate parseSocketAddr :=
  calc
    first.validate parseSocketAddr
    _ = first.withoutSecrets.validate parseSocketAddr := rfl
    _ = second.withoutSecrets.validate parseSocketAddr := by rw [h.rest]
    _ = second.validate parseSocketAddr := rfl

theorem Alike.url (h : Alike first second) : first.homeAssistant.url = second.homeAssistant.url :=
  congrArg (fun config => config.homeAssistant.url) h.rest

theorem Alike.view (h : Alike first second) (revision : ConfigFile → ρ) (ui : ConfigUi) :
    (view revision ui first).masked = (view revision ui second).masked := by
  have hconfig : (Web.view revision ui first).config = (Web.view revision ui second).config := h.rest
  have hsecrets : (Web.view revision ui first).secrets = (Web.view revision ui second).secrets := by
    simp only [Web.view, h.token, h.rtspPassword]
  simp only [ConfigView.masked, hconfig, hsecrets]
  rfl

theorem isSet_update (change : Option String) {stored other : Option String}
    (h : isSet stored = isSet other) : isSet (update change stored) = isSet (update change other) := by
  cases change with
  | none => exact h
  | some value => rfl

theorem Alike.draft [DecidableEq ρ] (h : Alike first second) (revision : ConfigFile → ρ)
    (request : DraftRequest ρ) :
    Alike (draftConfig revision request first).config
      (draftConfig revision request second).config where
  rest := rfl
  token := by
    simp only [draftConfig, h.url]
    apply isSet_update
    split
    · rfl
    · exact h.token
  rtspPassword := isSet_update _ h.rtspPassword

theorem Alike.newHaUrl [DecidableEq ρ] (h : Alike first second) (revision : ConfigFile → ρ)
    (request : DraftRequest ρ) :
    (draftConfig revision request first).newHaUrlWithoutToken =
      (draftConfig revision request second).newHaUrlWithoutToken := by
  simp only [draftConfig, h.url]

/-- A draft with the revision of both files or of neither passes the checks with both. -/
theorem Alike.checkDraft [DecidableEq ρ] (h : Alike first second) {env : GuiEnv ρ}
    {request : DraftRequest ρ}
    (current : request.outdated env.revision first = request.outdated env.revision second) :
    (∃ error,
      checkDraft env.parseSocketAddr (draftConfig env.revision request first) = .error error ∧
      checkDraft env.parseSocketAddr (draftConfig env.revision request second) = .error error) ∨
    (checkDraft env.parseSocketAddr (draftConfig env.revision request first) =
        .ok (draftConfig env.revision request first).config ∧
      checkDraft env.parseSocketAddr (draftConfig env.revision request second) =
        .ok (draftConfig env.revision request second).config) := by
  have hdraft := h.draft env.revision request
  have hnew := h.newHaUrl env.revision request
  have houtdated : (draftConfig env.revision request first).outdated =
      (draftConfig env.revision request second).outdated := current
  simp only [Web.checkDraft, houtdated, hnew, hdraft.url, hdraft.validate]
  split
  · exact .inl ⟨_, rfl, rfl⟩
  · split
    · exact .inl ⟨_, rfl, rfl⟩
    · split
      · exact .inl ⟨_, rfl, rfl⟩
      · exact .inr ⟨rfl, rfl⟩

theorem Alike.saveResponse (h : Alike first second) (revision : ConfigFile → ρ) (ui : ConfigUi)
    (written : Except ConfigError Unit) :
    (saveResponse revision ui first written).map ConfigView.masked =
      (saveResponse revision ui second written).map ConfigView.masked := by
  cases written with
  | error error => rfl
  | ok =>
    show Except.ok _ = Except.ok _
    rw [h.view]

/-! ### Scans -/

/-- Home Assistant gives the same answers to the tokens of both configurations. -/
def AnswersAlike (network : Network) (first second : ConfigFile) : Prop :=
  ∀ apiUrl one other, first.homeAssistant.token = some one →
    second.homeAssistant.token = some other →
    network.mediaPlayers ⟨apiUrl, one⟩ = network.mediaPlayers ⟨apiUrl, other⟩

/-- The token of a draft is in both runs the same or the one that is stored. -/
theorem token_cases [DecidableEq ρ] (h : Alike first second) (revision : ConfigFile → ρ)
    (request : DraftRequest ρ) :
    ((draftConfig revision request first).config.homeAssistant.token =
      (draftConfig revision request second).config.homeAssistant.token) ∨
    ((draftConfig revision request first).config.homeAssistant.token =
        first.homeAssistant.token ∧
      (draftConfig revision request second).config.homeAssistant.token =
        second.homeAssistant.token) := by
  simp only [draftConfig, h.url]
  cases request.secrets.homeAssistantToken with
  | some value => exact .inl rfl
  | none =>
    simp only [update]
    split
    · exact .inl rfl
    · exact .inr ⟨rfl, rfl⟩

open HomeAssistantClient in
theorem credential_of_set {supervisorToken : Option String} {config : HomeAssistantConfig}
    (set : isSet config.token = true) : credential supervisorToken config = config.token := by
  obtain ⟨token, htoken, hne⟩ := (Option.any_eq_true _ _).mp set
  simp_all [credential]

open HomeAssistantClient in
theorem credential_of_unset {supervisorToken : Option String} {config : HomeAssistantConfig}
    (unset : isSet config.token = false) :
    credential supervisorToken config = supervisorToken.filter (· ≠ "") := by
  cases htoken : config.token with
  | none => simp [credential, htoken]
  | some token =>
    rw [htoken] at unset
    have hempty : token = "" := by simpa [isSet] using unset
    rw [credential, htoken, hempty]
    rfl

open HomeAssistantClient in
theorem fromConfig_bind {apiUrl : Url → Option Url} {supervisorToken : Option String}
    {network : Network} {config other : HomeAssistantConfig} (url : config.url = other.url)
    (credentials : credential supervisorToken config = credential supervisorToken other ∨
      ∃ one two, credential supervisorToken config = some one ∧
        credential supervisorToken other = some two ∧
        ∀ apiUrl, network.mediaPlayers ⟨apiUrl, one⟩ = network.mediaPlayers ⟨apiUrl, two⟩) :
    (fromConfig apiUrl supervisorToken config).bind network.mediaPlayers =
      (fromConfig apiUrl supervisorToken other).bind network.mediaPlayers := by
  simp only [fromConfig, url]
  cases other.url with
  | none => rfl
  | some base =>
    obtain hsame | ⟨one, two, hone, htwo, hanswers⟩ := credentials
    · rw [hsame]
    · rw [hone, htwo]
      cases hbase : apiUrl base with
      | none => simp only [hbase]
      | some api =>
        simp only [hbase]
        exact hanswers api

/-- The client of a draft matters by the players it gets. -/
theorem discoverPlayers_eq (apiUrl : Url → Option Url) (supervisorToken : Option String)
    (draft : Draft) (network : Network) :
    discoverPlayers apiUrl supervisorToken draft network =
      if draft.config.homeAssistant.url.isNone then none
      else if draft.newHaUrlWithoutToken then
        some ⟨[], some (.text "enter the access token for the new Home Assistant URL")⟩
      else
        some <| .fromResult <| Except.map homeAssistantPlayers <|
          Except.mapError ErrorText.homeAssistant
            ((HomeAssistantClient.fromConfig apiUrl supervisorToken draft.config.homeAssistant).bind
              network.mediaPlayers) := by
  simp only [discoverPlayers, Draft.client]
  cases draft.config.homeAssistant.url.isNone with
  | true => rfl
  | false =>
    cases draft.newHaUrlWithoutToken with
    | true => rfl
    | false => rfl

theorem Alike.discoverPlayers [DecidableEq ρ] (h : Alike first second) {network : Network}
    (answers : AnswersAlike network first second) (env : GuiEnv ρ) (request : DraftRequest ρ) :
    discoverPlayers env.apiUrl env.supervisorToken (draftConfig env.revision request first) network =
      discoverPlayers env.apiUrl env.supervisorToken (draftConfig env.revision request second)
        network := by
  have hdraft := h.draft env.revision request
  have hnew := h.newHaUrl env.revision request
  have hbind : (HomeAssistantClient.fromConfig env.apiUrl env.supervisorToken
        (draftConfig env.revision request first).config.homeAssistant).bind network.mediaPlayers =
      (HomeAssistantClient.fromConfig env.apiUrl env.supervisorToken
        (draftConfig env.revision request second).config.homeAssistant).bind network.mediaPlayers := by
    apply fromConfig_bind hdraft.url
    obtain hsame | ⟨hfirst, hsecond⟩ := token_cases h env.revision request
    · left
      simp only [HomeAssistantClient.credential, hsame]
    · have htoken := h.token
      cases hset : isSet second.homeAssistant.token with
      | false =>
        rw [hset] at htoken
        left
        rw [credential_of_unset (hfirst ▸ htoken), credential_of_unset (hsecond ▸ hset)]
      | true =>
        rw [hset] at htoken
        obtain ⟨one, hone, _⟩ := (Option.any_eq_true _ _).mp htoken
        obtain ⟨two, htwo, _⟩ := (Option.any_eq_true _ _).mp hset
        right
        refine ⟨one, two, ?_, ?_, fun apiUrl => answers apiUrl one two hone htwo⟩
        · rw [credential_of_set (hfirst ▸ htoken), hfirst, hone]
        · rw [credential_of_set (hsecond ▸ hset), hsecond, htwo]
  simp only [discoverPlayers_eq, hdraft.url, hnew, hbind]

theorem Alike.discover [DecidableEq ρ] (h : Alike first second) {network : Network}
    (answers : AnswersAlike network first second) (env : GuiEnv ρ) (request : DraftRequest ρ) :
    discover env.apiUrl env.supervisorToken (draftConfig env.revision request first) network =
      discover env.apiUrl env.supervisorToken (draftConfig env.revision request second) network := by
  simp only [Web.discover, h.discoverPlayers answers env request]

/-! ### Responses -/

/-- Two texts that are read as configurations which differ only in their secrets, or that cannot
be read, for a reason given in the same words. -/
inductive AlikeTexts (toml : String → Except String ConfigFile) (one two : String) : Prop
  | parsed {first second : ConfigFile} (reads : toml one = .ok first)
      (readsOther : toml two = .ok second) (alike : Alike first second)
  | unparsed {source : String} (fails : toml one = .error source)
      (failsOther : toml two = .error source)

/-- The responses to every request that does not depend on the secrets in another way: a save
has the revision of both files or of neither, and Home Assistant accepts both tokens alike. -/
structure SameResponses [DecidableEq ρ] (env : GuiEnv ρ) (ui : ConfigUi)
    (file other : Except ConfigError ConfigFile) : Prop where
  get : (readConfig env.revision ui file).map ConfigView.masked =
    (readConfig env.revision ui other).map ConfigView.masked
  put : ∀ request outcome,
    (∀ draft first second, request = .ok draft → file = .ok first → other = .ok second →
      draft.outdated env.revision first = draft.outdated env.revision second) →
    (saveConfig env ui request file outcome).map ConfigView.masked =
      (saveConfig env ui request other outcome).map ConfigView.masked
  discover : ∀ request network,
    (∀ first second, file = .ok first → other = .ok second →
      AnswersAlike network first second) →
    discoverConfig env request file network = discoverConfig env request other network

theorem SameResponses.refl [DecidableEq ρ] (env : GuiEnv ρ) (ui : ConfigUi)
    (file : Except ConfigError ConfigFile) : SameResponses env ui file file :=
  ⟨rfl, fun _ _ _ => rfl, fun _ _ _ => rfl⟩

theorem Alike.sameResponses [DecidableEq ρ] (h : Alike first second) (env : GuiEnv ρ)
    (ui : ConfigUi) : SameResponses env ui (.ok first) (.ok second) where
  get := congrArg Except.ok (h.view env.revision ui)
  put := by
    intro request outcome current
    simp only [saveConfig]
    cases hrequest : saveRequested ui request with
    | error error => rfl
    | ok draft =>
      have haccepted : request = .ok draft := by
        simp only [saveRequested] at hrequest
        split at hrequest
        · cases hrequest
        · exact hrequest
      obtain ⟨error, hfirst, hsecond⟩ | ⟨hfirst, hsecond⟩ :=
        h.checkDraft (current draft first second haccepted rfl rfl)
      · simp only [Except.mapError, bind, Except.bind, hfirst, hsecond]
      · simp only [Except.mapError, bind, Except.bind, hfirst, hsecond]
        exact (h.draft env.revision draft).saveResponse env.revision ui _
  discover := by
    intro request network answers
    cases request with
    | error error => rfl
    | ok draft =>
      exact congrArg Except.ok (h.discover (answers first second rfl rfl) env draft)

theorem alike_fromPath {toml : String → Except String ConfigFile} {one two : String}
    (h : AlikeTexts toml one two) (parseSocketAddr : String → Option SocketAddr) (path : String) :
    ConfigFile.fromPath parseSocketAddr toml path (.ok one) =
      ConfigFile.fromPath parseSocketAddr toml path (.ok two) ∨
    ∃ first second, ConfigFile.fromPath parseSocketAddr toml path (.ok one) = .ok first ∧
      ConfigFile.fromPath parseSocketAddr toml path (.ok two) = .ok second ∧
      Alike first second := by
  cases h with
  | unparsed fails failsOther =>
    left
    simp only [ConfigFile.fromPath, ConfigFile.fromTomlStr, fails, failsOther]
  | @parsed first second reads readsOther alike =>
    simp only [ConfigFile.fromPath, ConfigFile.fromTomlStr, reads, readsOther, alike.validate]
    split
    · exact .inl rfl
    · exact .inr ⟨first, second, rfl, rfl, alike⟩

/-- The responses made from alike files are alike. -/
theorem same_responses [DecidableEq ρ] (env : GuiEnv ρ) (ui : ConfigUi)
    {toml : String → Except String ConfigFile} {one two : String} (h : AlikeTexts toml one two) :
    SameResponses env ui (ConfigFile.fromPath env.parseSocketAddr toml ui.path (.ok one))
      (ConfigFile.fromPath env.parseSocketAddr toml ui.path (.ok two)) := by
  obtain hsame | ⟨first, second, hfirst, hsecond, halike⟩ :=
    alike_fromPath h env.parseSocketAddr ui.path
  · rw [hsame]
    exact .refl env ui _
  · rw [hfirst, hsecond]
    exact halike.sameResponses env ui

/-! ### Two households that differ in a token -/

namespace Household

def storedFile : String :=
  "[home_assistant]\nurl = \"http://ha.local:8123/\"\ntoken = \"stored\"\n[airplay]\nrtsp_password = \"p\""

def otherFile : String :=
  "[home_assistant]\nurl = \"http://ha.local:8123/\"\ntoken = \"other\"\n[airplay]\nrtsp_password = \"p\""

/-- A token without the quote at its end. -/
def brokenFile : String := "[home_assistant]\ntoken = \"stored\n[airplay]\nrtsp_password = \"p\""

def otherBrokenFile : String := "[home_assistant]\ntoken = \"other\n[airplay]\nrtsp_password = \"p\""

def household (token : String) : ConfigFile :=
  { configAt "http://ha.local:8123/" (some token) with airplay := { rtspPassword := some "p" } }

/-- What a reader of TOML makes of these files: an error quotes the line. -/
def toml (contents : String) : Except String ConfigFile :=
  if contents = storedFile then .ok (household "stored")
  else if contents = otherFile then .ok (household "other")
  else if contents = brokenFile then .error "TOML parse error at line 2: token = \"stored"
  else .error "TOML parse error at line 2: token = \"other"

def load (contents : String) : Except ConfigError ConfigFile :=
  ConfigFile.fromPath guiEnv.parseSocketAddr toml configUi.path (.ok contents)

/-- A draft that keeps the secrets. -/
def keepsSecrets (revision : Option ConfigFile) : Except ApiError (DraftRequest ConfigFile) :=
  .ok ⟨{ configAt "http://ha.local:8123/" none with server := { logLevel := "debug" } }, ⟨none, none⟩,
    revision⟩

/-- Home Assistant knows one token. -/
def oneToken : Network where
  zones := .ok []
  mediaPlayers client :=
    if client.token = "stored" then .ok []
    else .error (.http ⟨false, false, false, some 401⟩)

end Household

open Web.Household in
theorem same_responses_household : SameResponses guiEnv configUi (load storedFile) (load otherFile) := by
  apply same_responses
  refine @AlikeTexts.parsed toml _ _ (household "stored") (household "other") ?_ ?_ ?_
  · decide +kernel
  · decide +kernel
  · exact ⟨rfl, by decide, by decide⟩

/-- A save with the revision of one file is refused for the other, Home Assistant refuses the
other token, and the error of a file that cannot be read quotes its token. -/
theorem responses_differ :
    (saveConfig Household.guiEnv Household.configUi
        (Household.keepsSecrets (some (Household.household "stored")))
        (Household.load Household.storedFile) .written).map ConfigView.masked ≠
      (saveConfig Household.guiEnv Household.configUi
        (Household.keepsSecrets (some (Household.household "stored")))
        (Household.load Household.otherFile) .written).map ConfigView.masked ∧
    discoverConfig Household.guiEnv (Household.keepsSecrets none)
        (Household.load Household.storedFile) Household.oneToken ≠
      discoverConfig Household.guiEnv (Household.keepsSecrets none)
        (Household.load Household.otherFile) Household.oneToken ∧
    (readConfig Household.guiEnv.revision Household.configUi
        (Household.load Household.brokenFile)).map ConfigView.masked ≠
      (readConfig Household.guiEnv.revision Household.configUi
        (Household.load Household.otherBrokenFile)).map ConfigView.masked := by
  refine ⟨by decide +kernel, ?_, by decide +kernel⟩
  intro heq
  have herrors := congrArg
    (Except.map fun discovery : Discovery => discovery.homeAssistant.bind Found.error) heq
  exact absurd herrors (by decide +kernel)

end Web

end AirSonos
