import EvpnMetadata.Binary64
import EvpnMetadata.Binary64.Nearest
import EvpnMetadata.Binary64.Shortest
import EvpnMetadata.Daemon
import EvpnMetadata.Daemon.CommandLine
import EvpnMetadata.Deployment
import EvpnMetadata.Fault
import EvpnMetadata.FiniteMap
import EvpnMetadata.Json
import EvpnMetadata.Json.Number
import EvpnMetadata.Json.Reader
import EvpnMetadata.Json.Record
import EvpnMetadata.Json.Writer
import EvpnMetadata.KeyValue.Connection
import EvpnMetadata.KeyValue.Database
import EvpnMetadata.KeyValue.EventQueue
import EvpnMetadata.KeyValue.Glob
import EvpnMetadata.KeyValue.SwitchTable
import EvpnMetadata.KeyValue.TopologyTables
import EvpnMetadata.Lifecycle.Bus
import EvpnMetadata.Lifecycle.Event
import EvpnMetadata.Lifecycle.Probe
import EvpnMetadata.Lifecycle.Wire
import EvpnMetadata.Main
import EvpnMetadata.Procedure
import EvpnMetadata.Reconcile.Hooks
import EvpnMetadata.Reconcile.Resolution
import EvpnMetadata.Reconcile.Sweep
import EvpnMetadata.Rehearsal
import EvpnMetadata.Sample
import EvpnMetadata.Settings
import EvpnMetadata.Settings.Format
import EvpnMetadata.Site
import EvpnMetadata.Switch.Advertisement
import EvpnMetadata.Switch.Backend
import EvpnMetadata.Switch.Bag
import EvpnMetadata.Switch.Memory
import EvpnMetadata.Switch.Naming
import EvpnMetadata.Switch.Publication
import EvpnMetadata.Switch.Verification
import EvpnMetadata.Text.Digits
import EvpnMetadata.Text.Leading
import EvpnMetadata.Text.Quoted
import EvpnMetadata.TimeSpan
import EvpnMetadata.Toml
import EvpnMetadata.Toml.Assembly
import EvpnMetadata.Toml.Datetime
import EvpnMetadata.Toml.Quoted
import EvpnMetadata.Toml.Reader
import EvpnMetadata.Toml.Scalar
import EvpnMetadata.Topology.Inventory
import EvpnMetadata.Topology.Query
import EvpnMetadata.Vpn.Admission
import EvpnMetadata.Vpn.Association
import EvpnMetadata.Vpn.Bgpvpn
import EvpnMetadata.Vpn.Network
import EvpnMetadata.Vpn.Revision
import EvpnMetadata.Proofs.FiniteMap
import EvpnMetadata.Proofs.Procedure
import EvpnMetadata.Proofs.Switch.Carrying
import EvpnMetadata.Proofs.Deployment
import EvpnMetadata.Proofs.Reconcile.Settlement
import EvpnMetadata.Proofs.Reconcile.Agenda
import EvpnMetadata.Proofs.Reconcile.Following
import EvpnMetadata.Proofs.Reconcile.Visiting
import EvpnMetadata.Proofs.Reconcile.Sweeping
import EvpnMetadata.Proofs.Reconcile.Swept
import EvpnMetadata.Proofs.Reconcile.Redelivery
import EvpnMetadata.Proofs.Topology.Inventory
import EvpnMetadata.Proofs.Reconcile.Ownership
import EvpnMetadata.Proofs.Reconcile.Plans
import EvpnMetadata.Proofs.Reconcile.Removal
import EvpnMetadata.Proofs.Reconcile.Reports
import EvpnMetadata.Proofs.Reconcile.Restoration
import EvpnMetadata.Proofs.Vpn.Revision
import EvpnMetadata.Proofs.Reconcile.Candidates
import EvpnMetadata.Proofs.Reconcile.Operation
import EvpnMetadata.Proofs.Reconcile.History
import EvpnMetadata.Proofs.Reconcile.Scene
import EvpnMetadata.Proofs.Reconcile.Interleaving
import EvpnMetadata.Proofs.Json.Scalars
import EvpnMetadata.Proofs.Json.RoundTrip
import EvpnMetadata.Proofs.Json.Number
import EvpnMetadata.Proofs.Json.Record
import EvpnMetadata.Proofs.Switch.Advertisement
import EvpnMetadata.Proofs.Vpn.Record
import EvpnMetadata.Proofs.Lifecycle.Wire
import EvpnMetadata.Proofs.KeyValue.EventQueue
import EvpnMetadata.Proofs.KeyValue.Glob
import EvpnMetadata.Proofs.KeyValue.SwitchKeys
import EvpnMetadata.Proofs.KeyValue.HeldSwitches
import EvpnMetadata.Proofs.KeyValue.SwitchTable
import EvpnMetadata.Proofs.KeyValue.Listing
import EvpnMetadata.Proofs.Reconcile.Agreement
import EvpnMetadata.Proofs.Reconcile.Attempts
import EvpnMetadata.Proofs.Reconcile.Layering
import EvpnMetadata.Proofs.Reconcile.LayeredRun
import EvpnMetadata.Proofs.Json.TextList
import EvpnMetadata.Proofs.Topology.Records
import EvpnMetadata.Proofs.Reconcile.Listings
import EvpnMetadata.Proofs.KeyValue.Mirroring
import EvpnMetadata.Proofs.KeyValue.MirroredTopology
import EvpnMetadata.Proofs.Reconcile.Interruption
import EvpnMetadata.Proofs.Reconcile.Updating
import EvpnMetadata.Proofs.Reconcile.Detachment
import EvpnMetadata.Proofs.Reconcile.Contention
import EvpnMetadata.Proofs.Reconcile.Calls
import EvpnMetadata.Proofs.Reconcile.Shielding
import EvpnMetadata.Proofs.Reconcile.Crossings
import EvpnMetadata.Proofs.Reconcile.Separation
import EvpnMetadata.Proofs.Reconcile.Draws
import EvpnMetadata.Proofs.Reconcile.Aborts
import EvpnMetadata.Proofs.Reconcile.Accounting
import EvpnMetadata.Proofs.KeyValue.Atomicity
import EvpnMetadata.Proofs.Reconcile.Exactness
import EvpnMetadata.Proofs.Reconcile.Answers
import EvpnMetadata.Proofs.Reconcile.Cosmetic
import EvpnMetadata.Proofs.Reconcile.Gathering
import EvpnMetadata.Proofs.Reconcile.Outages
import EvpnMetadata.Proofs.Json.Inversion
import EvpnMetadata.Proofs.Switch.Grammar
import EvpnMetadata.Proofs.Binary64
import EvpnMetadata.Proofs.Settings
import EvpnMetadata.Proofs.Vpn.Admission
import EvpnMetadata.Proofs.Reconcile.Lifetime
import EvpnMetadata.Proofs.Lifecycle.Bus
import EvpnMetadata.Proofs.KeyValue.KeptLists
import EvpnMetadata.Proofs.Daemon
import EvpnMetadata.Proofs.Topology.Table
import EvpnMetadata.Proofs.Topology.Edits
import EvpnMetadata.Proofs.Reconcile.Undisputed
import EvpnMetadata.Proofs.Reconcile.Rearrangement
import EvpnMetadata.Proofs.KeyValue.ListingOrder
