import AirSonos.Core.Config
import AirSonos.Sonos.Client

/-!
# The Home Assistant client

A client is built from the configuration and, when that holds no token, from the token the
Supervisor gives to the process. What Home Assistant answers is chosen by the environment.
-/

namespace AirSonos

structure HomeAssistantClient where
  apiUrl : Url
  token : String
deriving DecidableEq

namespace HomeAssistantClient

/-- The token a client would send: the configured one, or else the one of the Supervisor. -/
def credential (supervisorToken : Option String) (config : HomeAssistantConfig) :
    Option String :=
  ((config.token.filter (· ≠ "")).or supervisorToken).filter (· ≠ "")

/-- `apiUrl` joins `api/` onto a base URL, which fails for a URL that cannot be a base. -/
def fromConfig (apiUrl : Url → Option Url) (supervisorToken : Option String)
    (config : HomeAssistantConfig) : Except HomeAssistantError HomeAssistantClient :=
  match config.url with
  | none => .error .missingUrl
  | some url =>
    match credential supervisorToken config with
    | none => .error .missingToken
    | some token =>
      match apiUrl url with
      | none => .error .url
      | some apiUrl => .ok ⟨apiUrl, token⟩

theorem token_of_fromConfig {apiUrl : Url → Option Url} {supervisorToken : Option String}
    {config : HomeAssistantConfig} {client : HomeAssistantClient}
    (h : fromConfig apiUrl supervisorToken config = .ok client) :
    config.url.isSome ∧ credential supervisorToken config = some client.token := by
  unfold fromConfig at h
  split at h
  · cases h
  · case h_2 url url_eq =>
    split at h
    · cases h
    · case h_2 token token_eq =>
      split at h
      · cases h
      · cases h
        exact ⟨by rw [url_eq]; rfl, token_eq⟩

end HomeAssistantClient

structure MediaPlayer where
  entityId : String
  name : String
  state : String
  supportedFeatures : BitVec 32
deriving DecidableEq

namespace MediaPlayer

def FEATURE_VOLUME_SET : BitVec 32 := 4
def FEATURE_PLAY_MEDIA : BitVec 32 := 512
def FEATURE_STOP : BitVec 32 := 4096

def supportsPlayMedia (player : MediaPlayer) : Bool :=
  player.supportedFeatures &&& FEATURE_PLAY_MEDIA ≠ 0

def unsupportedServices (player : MediaPlayer) : List String :=
  ([(FEATURE_PLAY_MEDIA, "play_media"), (FEATURE_STOP, "media_stop"),
    (FEATURE_VOLUME_SET, "volume_set")].filter fun (feature, _) =>
      player.supportedFeatures &&& feature = 0).map Prod.snd

end MediaPlayer

end AirSonos
