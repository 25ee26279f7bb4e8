import NetFleet.Json.Value
import NetFleet.Json.Parse
import NetFleet.Json.Print
import NetFleet.Text.Utf8
import NetFleet.Text.Quoted
import NetFleet.Net.Addr
import NetFleet.Net.Prefix
import NetFleet.Decimal.Shortest
import NetFleet.Decimal.Layout
import NetFleet.Decimal.Read
import NetFleet.Decimal.Notation
import NetFleet.Decimal.Exact
import NetFleet.Decimal.Data
import NetFleet.Fault
import NetFleet.Reply
import NetFleet.Schema.Shape
import NetFleet.Schema.Decode
import NetFleet.Schema.Members
import NetFleet.Schema.Encode
import NetFleet.Column.Kind
import NetFleet.Column.Shapes
import NetFleet.Column.Checks
import NetFleet.Column.Rules
import NetFleet.Column.Document
import NetFleet.Report
import NetFleet.Text.Case
import NetFleet.Net.Text
import NetFleet.Json.Dynamic
import NetFleet.Dict
import NetFleet.Column.InterfaceName
import NetFleet.Column.Override
import NetFleet.Audit.Time
import NetFleet.Audit.Event
import NetFleet.Text.Glob
import NetFleet.Audit.Log
import NetFleet.Text.Category
import NetFleet.Yaml.Plain
import NetFleet.Yaml.Scalar
import NetFleet.Yaml.Emit
import NetFleet.Yaml.Token
import NetFleet.Yaml.Node
import NetFleet.Yaml.Datum
import NetFleet.Console.Table
import NetFleet.Console.Summary
import NetFleet.Http.Url
import NetFleet.Http.Exchange
import NetFleet.Netdb.Response
import NetFleet.Netdb.Client
import NetFleet.Netdb.Stub
import NetFleet.Router.Facts
import NetFleet.Json.Raw
import NetFleet.Overlay.Store
import NetFleet.Overlay.Entries
import NetFleet.Template.Lex
import NetFleet.Template.Literal
import NetFleet.Template.Parse
import NetFleet.Template.Value
import NetFleet.Template.Format
import NetFleet.Template.Compare
import NetFleet.Template.Exec
import NetFleet.Text.Cut
import NetFleet.Router.Templates
import NetFleet.Router.Commit
import NetFleet.Router.Scripted
import NetFleet.Text.Numeral
import NetFleet.Text.Duration
import NetFleet.Http.Authority
import NetFleet.Settings.Agent
import NetFleet.Inventory.Desk
import NetFleet.Inventory.Columns
import NetFleet.Inventory.Addresses
import NetFleet.Inventory.Peering
import NetFleet.Inventory.Connectors
import NetFleet.Text.Pad
import NetFleet.Control.Station
import NetFleet.Control.Toggle
import NetFleet.Control.Ethernet
import NetFleet.Control.Tunnel
import NetFleet.Control.Peer
import NetFleet.Control.Isis
import NetFleet.Control.Sets
import NetFleet.Control.Addresses
import NetFleet.Control.Lookup
import NetFleet.Control.Probe
import NetFleet.Control.Bench
import NetFleet.Proofs.Bench
import NetFleet.Proofs.Overlay
import NetFleet.Proofs.Apply
import NetFleet.Proofs.Toggle
import NetFleet.Proofs.MemberNames
import NetFleet.Proofs.ConstraintChecks
import NetFleet.Proofs.MessageOrder
import NetFleet.Proofs.FailClosed
import NetFleet.Proofs.JsonTokens
import NetFleet.Proofs.JsonText
import NetFleet.Proofs.JsonRender
import NetFleet.Proofs.ColumnEntry
import NetFleet.Proofs.JsonSpans
import NetFleet.Proofs.JsonCompact
import NetFleet.Proofs.OverlayDocument
import NetFleet.Proofs.OverlayModel
import NetFleet.Proofs.OverlayCommute
import NetFleet.Proofs.Wire
import NetFleet.Proofs.CheckedWrites
import NetFleet.Proofs.GlobMatch
import NetFleet.Proofs.BackupFiles
import NetFleet.Proofs.LogQuery
import NetFleet.Proofs.ColumnReads
import NetFleet.Proofs.AuditTrail
import NetFleet.Proofs.DeepMerge
import NetFleet.Proofs.OverrideApply
import NetFleet.Proofs.DocumentEnd
import NetFleet.Proofs.AddrText
import NetFleet.Proofs.PeerLookup
import NetFleet.Proofs.SettingsRefusal
import NetFleet.Proofs.TableLayout
import NetFleet.Shell.Words
import NetFleet.Shell.Case
import NetFleet.Proofs.Framing
import NetFleet.Proofs.ShellQuote
import NetFleet.Proofs.SessionScript
import NetFleet.Proofs.CommitReport
import NetFleet.Proofs.OverlayCrash
import NetFleet.Proofs.TunnelKeys
import NetFleet.Proofs.AddressEdits
import NetFleet.Proofs.ViewOrder
import NetFleet.Proofs.FaultContext
import NetFleet.Proofs.LogRotation
import NetFleet.Proofs.VlanNames
import NetFleet.Proofs.WholeDoubles
import NetFleet.Proofs.DurationText
import NetFleet.Proofs.Capitals
import NetFleet.Proofs.SettingsRoundTrip
import NetFleet.Proofs.AddressOrder
import NetFleet.Proofs.DoubleRounding
import NetFleet.Proofs.NumeralText
import NetFleet.Proofs.DoubleText
import NetFleet.Proofs.FreeForm
import NetFleet.Proofs.NodeFit
import NetFleet.Proofs.SchemaRoundTrip
import NetFleet.Proofs.DecodeInvariant
import NetFleet.Proofs.SettledReads
import NetFleet.Proofs.RulesReadBack
import NetFleet.Proofs.DefaultsReadBack
import NetFleet.Proofs.ColumnRoundTrip
