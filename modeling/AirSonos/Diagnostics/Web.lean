import AirSonos.HomeAssistant.Client
import AirSonos.Sonos.Discovery

/-!
# The requests of the web GUI

The page sends its unsaved state. A save checks it against the file and writes it, a scan uses
it to look for speakers. Both take the secrets from the request or else from the file. The
revision of a file is a parameter: what it identifies is the content, secrets included.
-/

namespace AirSonos.Web

inductive ErrorText
  | text (text : String)
  | config (error : ConfigError)
  | homeAssistant (error : HomeAssistantError)
deriving DecidableEq

structure ApiError where
  status : Nat
  message : ErrorText
deriving DecidableEq

namespace ApiError

def internal (error : ConfigError) : ApiError :=
  ⟨500, .config error⟩

def readOnly : ApiError :=
  ⟨403, .text "this config file is read-only; edit its source instead"⟩

def conflict : ApiError :=
  ⟨409, .text "the file changed in another window since this page loaded it"⟩

def tokenRequired : ApiError :=
  ⟨422, .text "home_assistant.token: enter the access token for the new Home Assistant URL"⟩

def unprocessable (error : ConfigError) : ApiError :=
  ⟨422, .config error⟩

end ApiError

structure Speaker where
  room : String
  airplayName : String
  rtspPort : Nat
deriving DecidableEq

inductive BridgeStatus
  | starting
  | setup (error : String)
  | running (speakers : List Speaker)
deriving DecidableEq

structure ConfigUi where
  path : String
  readOnly : Bool
  running : ConfigFile
  startedAtMs : Nat
  status : BridgeStatus

/-- For a save, `none` keeps the stored secret and an empty string removes it. -/
structure SecretState (α : Type) where
  homeAssistantToken : α
  rtspPassword : α
deriving DecidableEq

/-- A JSON body that could be read. -/
structure DraftRequest (ρ : Type) where
  config : ConfigFile
  secrets : SecretState (Option String)
  revision : Option ρ
deriving DecidableEq

structure ConfigView (ρ : Type) where
  version : String
  path : String
  readOnly : Bool
  restartRequired : Bool
  revision : ρ
  startedAtMs : Nat
  listener : String
  status : BridgeStatus
  config : ConfigFile
  secrets : SecretState Bool
deriving DecidableEq

structure Draft where
  config : ConfigFile
  newHaUrlWithoutToken : Bool
  outdated : Bool
deriving DecidableEq

section Requests

variable {ρ : Type} (revision : ConfigFile → ρ)

def isSet (secret : Option String) : Bool :=
  secret.any (· ≠ "")

def view (ui : ConfigUi) (config : ConfigFile) : ConfigView ρ where
  version := "0.3.0"
  path := ui.path
  readOnly := ui.readOnly
  restartRequired := config ≠ ui.running
  revision := revision config
  startedAtMs := ui.startedAtMs
  listener := ui.running.diagnostics.metricsAddr
  status := ui.status
  config :=
    { config with
      homeAssistant := { config.homeAssistant with token := none }
      airplay := { config.airplay with rtspPassword := none } }
  secrets := ⟨isSet config.homeAssistant.token, isSet config.airplay.rtspPassword⟩

def readConfig (ui : ConfigUi) (file : Except ConfigError ConfigFile) :
    Except ApiError (ConfigView ρ) :=
  match file with
  | .error error => .error (.internal error)
  | .ok config => .ok (view revision ui config)

def update (change stored : Option String) : Option String :=
  match change with
  | none => stored
  | some value => if value ≠ "" then some value else none

variable [DecidableEq ρ]

def DraftRequest.outdated (request : DraftRequest ρ) (stored : ConfigFile) : Bool :=
  request.revision.any fun base => base ≠ revision stored

/-- The draft config, with secrets taken from the request or else from the file. -/
def draftConfig (request : DraftRequest ρ) (stored : ConfigFile) : Draft :=
  let urlChanged : Bool := request.config.homeAssistant.url ≠ stored.homeAssistant.url
  let tokenSent := isSet request.secrets.homeAssistantToken
  let storedToken := if urlChanged then none else stored.homeAssistant.token
  { config :=
      { request.config with
        homeAssistant :=
          { request.config.homeAssistant with
            token := update request.secrets.homeAssistantToken storedToken }
        airplay :=
          { request.config.airplay with
            rtspPassword := update request.secrets.rtspPassword stored.airplay.rtspPassword } }
    newHaUrlWithoutToken := urlChanged && !tokenSent
    outdated := request.outdated revision stored }

/-- The first part of `save_config`, before it loads the file. -/
def saveRequested (ui : ConfigUi) (request : Except ApiError (DraftRequest ρ)) :
    Except ApiError (DraftRequest ρ) :=
  if ui.readOnly then .error .readOnly else request

/-- The second part of `save_config`: the checks between loading the file and writing it. -/
def checkDraft (parseSocketAddr : String → Option SocketAddr) (draft : Draft) :
    Except ApiError ConfigFile :=
  if draft.outdated then .error .conflict
  else if draft.newHaUrlWithoutToken && draft.config.homeAssistant.url.isSome then
    .error .tokenRequired
  else
    match draft.config.validate parseSocketAddr with
    | .error error => .error (.unprocessable error)
    | .ok () => .ok draft.config

theorem checkDraft_ok {parseSocketAddr : String → Option SocketAddr} {draft : Draft}
    {config : ConfigFile} (h : checkDraft parseSocketAddr draft = .ok config) :
    config = draft.config ∧ draft.outdated = false ∧
      (draft.newHaUrlWithoutToken = true → draft.config.homeAssistant.url.isSome = false) ∧
      draft.config.validate parseSocketAddr = .ok () := by
  unfold checkDraft at h
  split at h
  · cases h
  · case isFalse current =>
    split at h
    · cases h
    · case isFalse token =>
      split at h
      · cases h
      · case h_2 valid =>
        cases h
        refine ⟨rfl, Bool.eq_false_of_not_eq_true current, fun new => ?_, valid⟩
        rw [new, Bool.true_and] at token
        exact Bool.eq_false_of_not_eq_true token

theorem checkDraft_error {parseSocketAddr : String → Option SocketAddr} {draft : Draft}
    {error : ApiError} (h : checkDraft parseSocketAddr draft = .error error) :
    error = .conflict ↔ draft.outdated = true := by
  unfold checkDraft at h
  split at h
  · case isTrue outdated =>
    cases h
    exact ⟨fun _ => outdated, fun _ => rfl⟩
  · case isFalse current =>
    have hne : error ≠ .conflict := by
      rintro rfl
      split at h
      · cases h
      · split at h <;> cases h
    exact ⟨fun heq => absurd heq hne, fun outdated => absurd outdated current⟩

/-- The last part of `save_config`, after the file was written or not. -/
def saveResponse (ui : ConfigUi) (config : ConfigFile) (written : Except ConfigError Unit) :
    Except ApiError (ConfigView ρ) :=
  match written with
  | .error error => .error (.internal error)
  | .ok () => .ok (view revision ui config)

end Requests

/-! ### Scans -/

structure Found (α : Type) where
  items : List α
  error : Option ErrorText

def Found.fromResult {α : Type} : Except ErrorText (List α) → Found α
  | .ok items => ⟨items, none⟩
  | .error error => ⟨[], some error⟩

structure SonosRoom where
  room : String
  ip : ConfigAddr
  model : String

structure HomeAssistantPlayer where
  entityId : String
  name : String
  state : String
  unsupported : List String

structure Discovery where
  sonos : Found SonosRoom
  homeAssistant : Option (Found HomeAssistantPlayer)

/-- What the network answers to a scan. -/
structure Network where
  zones : Except ErrorText (List DiscoveredZone)
  mediaPlayers : HomeAssistantClient → Except HomeAssistantError (List MediaPlayer)

def sonosRooms (zones : List DiscoveredZone) : List SonosRoom :=
  ((zones.filter DiscoveredZone.isVisibleRoom).map fun zone =>
    ⟨zone.roomName, zone.ip, zone.model⟩).mergeSort fun a b => a.room ≤ b.room

def homeAssistantPlayers (players : List MediaPlayer) : List HomeAssistantPlayer :=
  ((players.filter MediaPlayer.supportsPlayMedia).map fun player =>
    ⟨player.entityId, player.name, player.state, player.unsupportedServices⟩).mergeSort
      fun a b => a.name ≤ b.name

section Scan

variable (apiUrl : Url → Option Url) (supervisorToken : Option String)

/-- The client a scan asks for its players, if it asks at all. -/
def Draft.client (draft : Draft) : Option (Except HomeAssistantError HomeAssistantClient) :=
  if draft.config.homeAssistant.url.isNone || draft.newHaUrlWithoutToken then none
  else some (HomeAssistantClient.fromConfig apiUrl supervisorToken draft.config.homeAssistant)

def discoverPlayers (draft : Draft) (network : Network) : Option (Found HomeAssistantPlayer) :=
  if draft.config.homeAssistant.url.isNone then none
  else
    match draft.client apiUrl supervisorToken with
    | none =>
      some ⟨[], some (.text "enter the access token for the new Home Assistant URL")⟩
    | some client =>
      some <| .fromResult <| Except.map homeAssistantPlayers <|
        Except.mapError ErrorText.homeAssistant (client.bind network.mediaPlayers)

def discover (draft : Draft) (network : Network) : Discovery where
  sonos := .fromResult (network.zones.map sonosRooms)
  homeAssistant := discoverPlayers apiUrl supervisorToken draft network

end Scan

end AirSonos.Web
