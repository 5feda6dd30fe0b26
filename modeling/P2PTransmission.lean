import P2PTransmission.Domain.Atomic
import P2PTransmission.Domain.Peers
import P2PTransmission.Domain.Admission
import P2PTransmission.Domain.Session
import P2PTransmission.Storage.TornRead
import P2PTransmission.Realtime.Privacy
import P2PTransmission.Realtime.HubRuns
import P2PTransmission.Realtime.Passes
import P2PTransmission.Storage.Clock
import P2PTransmission.Services.Created
import P2PTransmission.Client.Discipline
import P2PTransmission.Realtime.Decisions
import P2PTransmission.Rtc.OneSender
import P2PTransmission.Wire.Client
import P2PTransmission.Deploy.InstallRuns
import P2PTransmission.Deploy.Rollback
import P2PTransmission.Deploy.Supervisor
import P2PTransmission.Deploy.Waiting
import P2PTransmission.Rtc.Tiling
import P2PTransmission.Rtc.Frame
import P2PTransmission.Rtc.Rebuilt
import P2PTransmission.Rtc.LiveResume
import P2PTransmission.Rtc.Reconnect
import P2PTransmission.Rtc.Calls
import P2PTransmission.Rtc.Refused
import P2PTransmission.Rtc.Signaling
import P2PTransmission.Rtc.RefusedSignals
import P2PTransmission.Client.Transfers
import P2PTransmission.Client.OwnTransfers
import P2PTransmission.Services.RateLimit
import P2PTransmission.Rtc.DestinationNames
import P2PTransmission.Client.RealtimeConnection
import P2PTransmission.Rtc.ManifestWire
import P2PTransmission.Deploy.EnvironmentText
import P2PTransmission.Deploy.Backups
import P2PTransmission.Deploy.RetiredFiles
import P2PTransmission.Client.RtcWork
import P2PTransmission.Deploy.KeptWrites
import P2PTransmission.Rtc.TextRuns
import P2PTransmission.Rtc.TextSlots
import P2PTransmission.Rtc.SignalRuns
import P2PTransmission.Rtc.SignalQueues
import P2PTransmission.Foundation.Since
import P2PTransmission.Realtime.RoomFeed
import P2PTransmission.Services.InviteRuns
