import WifiManager.Lib.Loop
import WifiManager.Lib.Consumer
import WifiManager.Lib.CString
import WifiManager.Lib.Machine
import WifiManager.Lib.Fifo
import WifiManager.Lib.Serial
import WifiManager.Lib.Slots
import WifiManager.Lib.KeyStore
import WifiManager.Lib.Buffer
import WifiManager.Lib.Split
import WifiManager.Lib.Hex
import WifiManager.Lib.FormUrl
import WifiManager.Lib.Decimal
import WifiManager.Lib.JsonText
import WifiManager.Lib.JsonMembers
import WifiManager.Lib.JsonLex
import WifiManager.Lib.JsonNested
import WifiManager.Lib.Retry
import WifiManager.Esp
import WifiManager.Upstream
import WifiManager.TlsSniParser.Parser
import WifiManager.TlsSniParser.Stream
import WifiManager.TlsSniParser.Reference
import WifiManager.TlsSniParser.Grammar
import WifiManager.TlsSniParser.ClientHello
import WifiManager.TlsSniParser.Accepted
import WifiManager.TlsSniParser.Buffers
import WifiManager.TlsSniParser.Bounds
import WifiManager.AccessFilter.Packet
import WifiManager.AccessFilter.Hostname
import WifiManager.AccessFilter.Flow
import WifiManager.AccessFilter.FlowStep
import WifiManager.AccessFilter.Reassembly
import WifiManager.AccessFilter.Runs
import WifiManager.AccessFilter.FlowTable
import WifiManager.AccessFilter.Streams
import WifiManager.AccessFilter.Evasion
import WifiManager.AccessFilter.Filter
import WifiManager.AccessFilter.Installs
import WifiManager.AccessFilter.Labels
import WifiManager.AccessFilter.Rules
import WifiManager.AccessFilter.Input
import WifiManager.ClientAccess.Mac
import WifiManager.ClientAccess.MacText
import WifiManager.ClientAccess.Table
import WifiManager.ClientAccess.Runs
import WifiManager.ClientAccess.Seats
import WifiManager.ClientAccess.Ledger
import WifiManager.ClientAccess.Lifetime
import WifiManager.ClientAccess.Expiry
import WifiManager.ClientAccess.Address
import WifiManager.ClientAccess.Disconnects
import WifiManager.ClientAccess.Sessions
import WifiManager.ClientAccess.Start
import WifiManager.ClientAccess.Backfill
import WifiManager.ClientAccess.Integrity
import WifiManager.ClientAccess.Alone
import WifiManager.ClientAccess.Isolation
import WifiManager.AccessFilter.Mediation
import WifiManager.AppCommand.Parse
import WifiManager.AppCommand.Stage
import WifiManager.AppCommand.Fields
import WifiManager.AppCommand.Compact
import WifiManager.AppCommand.WhiteSpace
import WifiManager.Main.Allow
import WifiManager.AppStorage.Nvs
import WifiManager.AppStorage.Storage
import WifiManager.AppStorage.Operations
import WifiManager.AppStorage.Configuration
import WifiManager.AppStorage.Prefixes
import WifiManager.AppStorage.Crash
import WifiManager.AppStorage.Manage
import WifiManager.AppStorage.Versions
import WifiManager.WifiGateway.Gateway
import WifiManager.WifiGateway.Credentials
import WifiManager.WifiGateway.Failures
import WifiManager.WifiGateway.Driver
import WifiManager.AppStorage.Candidates
import WifiManager.AppStorage.Repair
import WifiManager.AppStorage.Accepted
import WifiManager.Main.Candidate
import WifiManager.Main.Promotion
import WifiManager.CaptivePortal.PortalDns
import WifiManager.CaptivePortal.SameVerdict
import WifiManager.CaptivePortal.Question
import WifiManager.CaptivePortal.Reply
import WifiManager.CaptivePortal.Provision
import WifiManager.Main.Provisioning
import WifiManager.Main.Staging
import WifiManager.AppMqtt.Incoming
import WifiManager.Main.ClientReports
import WifiManager.Main.DisconnectTask
import WifiManager.AppCommand.Identity
import WifiManager.Main.Commands
import WifiManager.Main.Firmware
import WifiManager.ClientAccess.Authority
import WifiManager.Main.Authority
import WifiManager.Main.Blocking
import WifiManager.Main.Boot
import WifiManager.Main.Lifecycle
import WifiManager.Main.Networks
import WifiManager.Main.Restarts
import WifiManager.Main.Device
import WifiManager.CaptivePortal.Pages
import WifiManager.Main.Portal
