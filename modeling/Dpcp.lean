import Dpcp.Bits.Memory
import Dpcp.Bits.Writes
import Dpcp.Bits.Records
import Dpcp.Bits.Bytes
import Dpcp.Bits.Regions
import Dpcp.Data.Multimap
import Dpcp.Machine.Run
import Dpcp.Machine.Ledger
import Dpcp.Machine.Owner
import Dpcp.Machine.Keyed
import Dpcp.Machine.References
import Dpcp.Machine.Custody
import Dpcp.Machine.Check
import Dpcp.Machine.Naming
import Dpcp.Dcmd.Devx
import Dpcp.Dcmd.Mlx5
import Dpcp.Dcmd.Encoder
import Dpcp.Dcmd.Masked
import Dpcp.Dcmd.Prm
import Dpcp.Api
import Dpcp.Obj
import Dpcp.GeneralObject
import Dpcp.KeyArea
import Dpcp.KeyStore
import Dpcp.Ownership
import Dpcp.Flow.ActionModify
import Dpcp.Flow.Action
import Dpcp.Flow.ActionReformat
import Dpcp.Flow.Matcher
import Dpcp.Flow.Group
import Dpcp.Flow.RulePrm
import Dpcp.Flow.RuleSteps
import Dpcp.Flow.Encoders
import Dpcp.Flow.RuleKernel
import Dpcp.Flow.Selection
import Dpcp.Flow.Rule
import Dpcp.Flow.RuleMatch
import Dpcp.Flow.LegacySelection
import Dpcp.Flow.WindowsFlow
import Dpcp.Flow.VerbsFlow
import Dpcp.Flow.Table
import Dpcp.Flow.ActionCheck
import Dpcp.Flow.SharedModify
import Dpcp.Flow.RootEntries
import Dpcp.Flow.TableQuery
import Dpcp.Flow.Space
import Dpcp.Flow.Chain
import Dpcp.Flow.Miss
import Dpcp.Flow.Weak
import Dpcp.Flow.Items
import Dpcp.Flow.Teardown
import Dpcp.Flow.Shared
import Dpcp.Mkey.Counter
import Dpcp.Mkey.Mkey
import Dpcp.Mkey.Pattern
import Dpcp.Mkey.PatternMailbox
import Dpcp.Mkey.Ref
import Dpcp.Mkey.RefGraph
import Dpcp.Text.Scan
import Dpcp.Provider.Version
import Dpcp.Provider.Devices
import Dpcp.Mkey.Keys
import Dpcp.Uar.Collection
import Dpcp.Event.Channel
import Dpcp.Queue.Basic
import Dpcp.Queue.Cq
import Dpcp.Queue.Rq
import Dpcp.Queue.PpSq
import Dpcp.Queue.Destroy
import Dpcp.Queue.Registered
import Dpcp.Queue.Geometry
import Dpcp.Queue.Stride
import Dpcp.Queue.CqContext
import Dpcp.Queue.SqContext
import Dpcp.Queue.Pacing
import Dpcp.Queue.PacingRun
import Dpcp.Queue.PacingSwap
import Dpcp.Queue.State
import Dpcp.Transport.Cached
import Dpcp.Transport.Tir
import Dpcp.Transport.Tis
import Dpcp.Parser.GraphNode
import Dpcp.Parser.Mailbox
import Dpcp.Parser.Checks
import Dpcp.Parser.Query
import Dpcp.Flow.SharedForward
import Dpcp.Lifecycles
import Dpcp.Adapter.Factories
import Dpcp.Adapter.Capabilities
import Dpcp.Queue.Logarithms
import Dpcp.Adapter.Domains
import Dpcp.Adapter.RootTables
import Dpcp.Adapter.RealTime
import Dpcp.Handles
import Dpcp.Paths
