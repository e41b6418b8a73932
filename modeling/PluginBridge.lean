import PluginBridge.Config.Document
import PluginBridge.Scenario.Boundary
import PluginBridge.Scenario.Extract
import PluginBridge.Scenario.Slots
import PluginBridge.Scenario.Table
import PluginBridge.Traffic.Alone
import PluginBridge.Proofs.Dispatch.Shares
import PluginBridge.Proofs.Slot.States
import PluginBridge.Proofs.Traffic.Moves
import PluginBridge.Proofs.Traffic.Rounds
import PluginBridge.Proofs.Traffic.Runs
import PluginBridge.Proofs.Traffic.Tenancy
import PluginBridge.Proofs.Traffic.Patience
import PluginBridge.Proofs.Traffic.ExactlyOnce
import PluginBridge.Proofs.Dispatch.Marks
import PluginBridge.Proofs.Dispatch.Exits
import PluginBridge.Proofs.Engine.Staffing
import PluginBridge.Proofs.Engine.Consistency
import PluginBridge.Proofs.Engine.Calls
import PluginBridge.Proofs.HandleTable.Sizes
import PluginBridge.Proofs.Engine.Service
import PluginBridge.Proofs.Field.Worlds
import PluginBridge.Proofs.Host.Quiet
import PluginBridge.Proofs.Host.Orderly
import PluginBridge.Proofs.Host.Calls
import PluginBridge.Proofs.Traffic.Release
import PluginBridge.Proofs.Traffic.Standstill
import PluginBridge.Proofs.Engine.Changes
import PluginBridge.Proofs.Engine.Clients
import PluginBridge.Proofs.Host.Solo
import PluginBridge.Proofs.Host.Stalls
import PluginBridge.Proofs.Host.Paths
import PluginBridge.Proofs.Host.Nesting
import PluginBridge.Proofs.Host.Callers
import PluginBridge.Proofs.Host.Deadlocks
import PluginBridge.Proofs.Host.NestedCalls
import PluginBridge.Proofs.Host.Extractions
import PluginBridge.Proofs.Engine.Bookkeeping
import PluginBridge.Proofs.Engine.Attended
import PluginBridge.Proofs.Traffic.Payload
import PluginBridge.Proofs.Engine.LateExits
import PluginBridge.Proofs.Engine.Lateness
import PluginBridge.Proofs.Engine.Manning
import PluginBridge.Proofs.Engine.Attention
import PluginBridge.Proofs.HandleTable.Custody
import PluginBridge.Proofs.Engine.Isolation
import PluginBridge.Proofs.Boundary.Misuse
import PluginBridge.Proofs.Host.Containment
import PluginBridge.Proofs.Text.Utf8
import PluginBridge.Proofs.Field.Specs
import PluginBridge.Proofs.Field.Storage
import PluginBridge.Proofs.Field.Courses
import PluginBridge.Proofs.Field.Prefix
import PluginBridge.Proofs.Field.Residue
import PluginBridge.Proofs.Field.Shapes
import PluginBridge.Proofs.Host.Messages
import PluginBridge.Proofs.Dispatch.Dismissals
import PluginBridge.Proofs.Engine.Renewal
import PluginBridge.Proofs.Dispatch.Dues
import PluginBridge.Proofs.Json.Records
import PluginBridge.Proofs.Schema.Documents
import PluginBridge.Proofs.Engine.Ranges
import PluginBridge.Proofs.Config.Environment
import PluginBridge.Proofs.Event.Streams
import PluginBridge.Proofs.Json.Numerals
import PluginBridge.Proofs.Json.Quotations
import PluginBridge.Proofs.Json.Values
import PluginBridge.Proofs.Json.Objects
import PluginBridge.Proofs.Config.Documents
