import OpenSyncRdk.Lib.Bytes
import OpenSyncRdk.Lib.Machine
import OpenSyncRdk.Lib.AsyncQueue
import OpenSyncRdk.Lib.PrefixCode
import OpenSyncRdk.Lib.Pieces
import OpenSyncRdk.Lib.Journal
import OpenSyncRdk.Lib.Settled
import OpenSyncRdk.Lib.Slots
import OpenSyncRdk.Lib.Handover
import OpenSyncRdk.Lib.Reads
import OpenSyncRdk.Lib.Confined
import OpenSyncRdk.Pl2rl.Msg
import OpenSyncRdk.Pl2rl.Sender
import OpenSyncRdk.Pl2rl.Framing
import OpenSyncRdk.Pl2rld.Recv
import OpenSyncRdk.Pl2rld.Decode
import OpenSyncRdk.Pl2rld.Chunks
import OpenSyncRdk.Pl2rld.RoundTrip
import OpenSyncRdk.Pl2rld.Daemon
import OpenSyncRdk.Pl2rld.Confined
import OpenSyncRdk.Pl2rl.Wire
import OpenSyncRdk.Pl2rld.Pipe
import OpenSyncRdk.Pl2rld.System
import OpenSyncRdk.Pl2rld.Links
import OpenSyncRdk.Pl2rld.LogChannel
import OpenSyncRdk.Sync.Channel
import OpenSyncRdk.Sync.Client
import OpenSyncRdk.Clients.Table
import OpenSyncRdk.Clients.Reports
import OpenSyncRdk.Clients.Queue
import OpenSyncRdk.Clients.Reconcile
import OpenSyncRdk.Clients.Fetched
import OpenSyncRdk.Clients.Reobserved
import OpenSyncRdk.Radio.Resync
import OpenSyncRdk.Vif.Security
import OpenSyncRdk.Vif.SecurityMode
import OpenSyncRdk.Vif.Delta
import OpenSyncRdk.Vif.StaQueue
import OpenSyncRdk.Bsal.Group
import OpenSyncRdk.Bsal.Store
import OpenSyncRdk.Bsal.Edits
import OpenSyncRdk.BsalLegacy.Group
import OpenSyncRdk.BsalLegacy.SetGroup
import OpenSyncRdk.Bsal.ClientInfo
import OpenSyncRdk.Bsal.Event
import OpenSyncRdk.BsalLegacy.Event
import OpenSyncRdk.Bsal.Routing
import OpenSyncRdk.Bsal.ClientCache
import OpenSyncRdk.Bsal.Neighbors
import OpenSyncRdk.Bsal.NeighborLists
import OpenSyncRdk.Bsal.SentNeighbors
import OpenSyncRdk.Bsal.Elements
import OpenSyncRdk.Bsal.AssocIes
import OpenSyncRdk.Bsal.IeOrder
import OpenSyncRdk.Stats.Clients
import OpenSyncRdk.Stats.Accounting
import OpenSyncRdk.Stats.Radio
import OpenSyncRdk.Stats.Scan
import OpenSyncRdk.Stats.ScanResults
import OpenSyncRdk.Stats.ScanNeighbors
import OpenSyncRdk.Stats.ScanPolls
import OpenSyncRdk.Stats.Survey
import OpenSyncRdk.Stats.SurveyPercent
import OpenSyncRdk.Stats.SurveyRestart
import OpenSyncRdk.Lib.Words
import OpenSyncRdk.Lib.Numerals
import OpenSyncRdk.Lib.Carried
import OpenSyncRdk.Vif.Vap
import OpenSyncRdk.Vif.Acl
import OpenSyncRdk.Vif.AclReconcile
import OpenSyncRdk.Vif.MacText
import OpenSyncRdk.Vif.AclMac
import OpenSyncRdk.Vif.Deferred
import OpenSyncRdk.Vif.ConfigAtomic
import OpenSyncRdk.Vif.PasswordAtomic
import OpenSyncRdk.Vif.SecuritySync
import OpenSyncRdk.Radio.ChanEvents
import OpenSyncRdk.Radio.Radar
import OpenSyncRdk.Radio.Republish
import OpenSyncRdk.Connector.DataModel
import OpenSyncRdk.Connector.Tables
import OpenSyncRdk.Connector.DeleteOrder
import OpenSyncRdk.Connector.PortForward
import OpenSyncRdk.Lib.Firsts
import OpenSyncRdk.Osn.LeaseLine
import OpenSyncRdk.Osn.Dhcps
import OpenSyncRdk.Osn.DhcpServers
import OpenSyncRdk.Bsal.Lifecycle
import OpenSyncRdk.Pl2rl.LogSize
import OpenSyncRdk.Lib.Filled
import OpenSyncRdk.Lib.Columns
import OpenSyncRdk.Lib.Fields
import OpenSyncRdk.Lib.Lines
import OpenSyncRdk.Lib.Prints
import OpenSyncRdk.Radio.ChanQueue
import OpenSyncRdk.Bsal.ElementWalk
import OpenSyncRdk.Vif.AclText
import OpenSyncRdk.Vif.Reconfigured
import OpenSyncRdk.Vif.InitialConfig
import OpenSyncRdk.Pl2rl.RateLimit
import OpenSyncRdk.Radio.InitialConfig
import OpenSyncRdk.BsTest.Framing
import OpenSyncRdk.BsTest.BtmRequest
import OpenSyncRdk.BsTest.SetGroup
import OpenSyncRdk.BsTest.Commands
import OpenSyncRdk.BsTest.Daemon
import OpenSyncRdk.BsTest.RoundTrip
import OpenSyncRdk.BsTest.Session
import OpenSyncRdk.Lib.Terminated
import OpenSyncRdk.Dmcli.Getv
import OpenSyncRdk.Sync.Manager
import OpenSyncRdk.Sync.Dispatch
import OpenSyncRdk.Sync.CloudMode
import OpenSyncRdk.Sync.Status
import OpenSyncRdk.Radio.Config
import OpenSyncRdk.Radio.Published
import OpenSyncRdk.Vif.ReadBack
import OpenSyncRdk.Vif.StateUpdates
import OpenSyncRdk.Vif.Published
import OpenSyncRdk.Connector.Clean
import OpenSyncRdk.Connector.Mirror
import OpenSyncRdk.Connector.Lan
import OpenSyncRdk.Connector.Main
