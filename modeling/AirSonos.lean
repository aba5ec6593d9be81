import AirSonos.Lib.AssocMap
import AirSonos.Lib.TransitionSystem
import AirSonos.Lib.Doorbell
import AirSonos.Lib.Notify
import AirSonos.Lib.Text
import AirSonos.Lib.VersionedRegister
import AirSonos.Lib.Broadcast
import AirSonos.Lib.LongestSuffix
import AirSonos.Lib.ServiceWindow
import AirSonos.Lib.Path
import AirSonos.Lib.Xml
import AirSonos.Lib.ArrivalCurve
import AirSonos.Lib.Rounding
import AirSonos.Core.Types
import AirSonos.Core.Sync
import AirSonos.Core.PcmQueue
import AirSonos.Core.PcmAccounting
import AirSonos.Core.PcmLedger
import AirSonos.Core.PcmRecv
import AirSonos.Core.PcmLosses
import AirSonos.Core.LiveEdge
import AirSonos.Airplay.PcmFeed
import AirSonos.Airplay.Buffered
import AirSonos.Airplay.Admission
import AirSonos.Sonos.Client
import AirSonos.Sonos.Topology
import AirSonos.Sonos.ZoneGroups
import AirSonos.Sonos.Soap
import AirSonos.Bridge.Types
import AirSonos.Bridge.Worker
import AirSonos.Bridge.Room
import AirSonos.Bridge.Runtime
import AirSonos.Bridge.Cohort
import AirSonos.Bridge.Handlers
import AirSonos.Bridge.Restart
import AirSonos.Bridge.System
import AirSonos.Bridge.Moves
import AirSonos.Bridge.Chains
import AirSonos.Bridge.Termination
import AirSonos.Bridge.Steps
import AirSonos.Bridge.Payload
import AirSonos.Bridge.WorkerSteps
import AirSonos.Bridge.Coherence
import AirSonos.Bridge.Generations
import AirSonos.Bridge.CohortOrder
import AirSonos.Bridge.Tokens
import AirSonos.Bridge.Attempts
import AirSonos.Bridge.Silence
import AirSonos.Bridge.SessionSteps
import AirSonos.Bridge.Playing
import AirSonos.Bridge.Releases
import AirSonos.Bridge.Repeats
import AirSonos.Bridge.Uris
import AirSonos.Bridge.ZoneSteps
import AirSonos.Bridge.OwnUri
import AirSonos.Bridge.ReleasePlan
import AirSonos.Bridge.ReleaseSteps
import AirSonos.Bridge.Alignment
import AirSonos.Bridge.Lifetimes
import AirSonos.Bridge.Grace
import AirSonos.Bridge.Epochs
import AirSonos.Airplay.AudioSession
import AirSonos.Core.Config
import AirSonos.Core.ConfigWrite
import AirSonos.Sonos.Discovery
import AirSonos.Sonos.ResponseOrder
import AirSonos.Sonos.Assignments
import AirSonos.Sonos.Acceptance
import AirSonos.HomeAssistant.Client
import AirSonos.Bridge.Endpoints
import AirSonos.Diagnostics.Web
import AirSonos.Diagnostics.Gui
import AirSonos.Diagnostics.Credentials
import AirSonos.Diagnostics.Revisions
import AirSonos.Diagnostics.Secrecy
import AirSonos.Stream.Request
import AirSonos.Stream.Fence
import AirSonos.Stream.Live
import AirSonos.Stream.Body
import AirSonos.Stream.Fates
import AirSonos.Stream.TimedPcm
import AirSonos.Stream.WavEncoder
import AirSonos.Stream.DelayLine
import AirSonos.Stream.QueueBudget
import AirSonos.Stream.Registry
import AirSonos.Stream.Metrics
import AirSonos.Pipeline.System
import AirSonos.Pipeline.Steps
import AirSonos.Pipeline.Provenance
import AirSonos.Pipeline.Fence
import AirSonos.Pipeline.Ledger
import AirSonos.Pipeline.Lossless
import AirSonos.Raop.Playout
import AirSonos.Raop.BufferedAudio
import AirSonos.Raop.Steps
import AirSonos.Raop.Fence
import AirSonos.Raop.Ledger
import AirSonos.Raop.Timeline
import AirSonos.Rtsp.Transport
import AirSonos.Rtsp.Requests
import AirSonos.Rtsp.Connection
import AirSonos.Rtsp.Service
import AirSonos.Rtsp.Sealing
import AirSonos.Raop.Interleaved
import AirSonos.Raop.Muting
import AirSonos.Raop.Turns
import AirSonos.Rtsp.Authority
import AirSonos.Rtsp.Tlv
