import AirSonos.Core.Types

/-!
# Renderer requests and their errors

A request to a renderer ends with `Ok` or with one error. The runtime asks two questions of
an error: whether the request timed out, and whether a retry can help.
-/

namespace AirSonos

/-- What `reqwest` says about a failed request. A connect timeout is both a timeout and a
connect error. -/
structure ReqwestError where
  timeout : Bool
  connect : Bool
  body : Bool
  status : Option Nat
deriving DecidableEq

inductive SonosClientError
  | url
  | http (error : ReqwestError)
  | soap
  | fault (status : Nat) (code : Option Nat)
  | bodyTooLarge (status limit : Nat)
  | unexpectedGetVolumeResponse
deriving DecidableEq

namespace SonosClientError

def permanentCodes : List Nat := [401, 402, 600, 601, 602, 606, 711, 714, 716, 718]

def isRetryable : SonosClientError → Bool
  | http error => error.timeout || error.connect || error.body
  | fault status code =>
    !(code.any fun c => permanentCodes.contains c) &&
      (status == 408 || status == 429 || decide (500 ≤ status))
  | _ => false

def isTimeout : SonosClientError → Bool
  | http error => error.timeout
  | _ => false

end SonosClientError

inductive HomeAssistantError
  | missingUrl
  | missingToken
  | url
  | http (error : ReqwestError)
  | json
  | missingVolumeLevel
  | redirect (status : Nat)
deriving DecidableEq

namespace HomeAssistantError

def isRetryable : HomeAssistantError → Bool
  | http error =>
    error.timeout || error.connect || error.body ||
      error.status.any fun status =>
        decide (500 ≤ status ∧ status < 600) || status == 408 || status == 429
  | _ => false

def isTimeout : HomeAssistantError → Bool
  | http error => error.timeout
  | _ => false

end HomeAssistantError

inductive RendererError
  | sonos (error : SonosClientError)
  | homeAssistant (error : HomeAssistantError)
deriving DecidableEq

namespace RendererError

def isRetryable : RendererError → Bool
  | sonos error => error.isRetryable
  | homeAssistant error => error.isRetryable

def isTimeout : RendererError → Bool
  | sonos error => error.isTimeout
  | homeAssistant error => error.isTimeout

end RendererError

abbrev Reply := Except RendererError Unit

namespace Reply

def isErr : Reply → Bool
  | .ok _ => false
  | .error _ => true

def isTimeout : Reply → Bool
  | .ok _ => false
  | .error error => error.isTimeout

end Reply

end AirSonos
