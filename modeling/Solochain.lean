import Solochain.Library.Machine
import Solochain.Library.Rollback
import Solochain.Library.Replica
import Solochain.Library.Saturating
import Solochain.Library.Metering
import Solochain.Library.Reserve
import Solochain.Library.FixedBytes
import Solochain.Library.Ledger
import Solochain.Library.Codec
import Solochain.Library.Compact
import Solochain.Library.Wire
import Solochain.Library.Quorum
import Solochain.Library.Window
import Solochain.Library.Journal
import Solochain.Library.Dispatch
import Solochain.Library.Gossip
import Solochain.Library.Threshold
import Solochain.Library.FileTree
import Solochain.Library.Script
import Solochain.Library.Bags
import Solochain.Runtime.Types
import Solochain.Runtime.Limits
import Solochain.Runtime.GasBudget
import Solochain.Runtime.ExtrinsicLimit
import Solochain.Runtime.StorageBudget
import Solochain.Runtime.BlockResources
import Solochain.Runtime.BlockGas
import Solochain.Runtime.BlockFees
import Solochain.Runtime.PendingBlock
import Solochain.Runtime.Call
import Solochain.Runtime.SelfContained
import Solochain.Runtime.TransactionConverter
import Solochain.Runtime.ProofSizeEstimate
import Solochain.Runtime.TransactionWire
import Solochain.Runtime.AddressMapping
import Solochain.Runtime.Equivocation
import Solochain.Runtime.Babe
import Solochain.Runtime.Template
import Solochain.Runtime.Governance
import Solochain.Runtime.MotionOrigins
import Solochain.Runtime.SigningEra
import Solochain.Runtime.Precompiles
import Solochain.Runtime.VoterBags
import Solochain.Runtime.RandomBalancing
import Solochain.Node.Genesis
import Solochain.Node.InherentData
import Solochain.Node.ManualSeal
import Solochain.Node.MockTimestamp
import Solochain.Node.PendingInherents
import Solochain.Node.Network
import Solochain.Node.DynamicFee
import Solochain.Node.GenesisIssuance
import Solochain.Node.CommitteeGenesis
import Solochain.Node.GenesisStakers
import Solochain.Node.GenesisEndowment
import Solochain.Node.GenesisGovernance
import Solochain.Node.ChainSpecs
import Solochain.Node.StateOverride
import Solochain.Node.Revert
import Solochain.Node.PurgeChain
import Solochain.Node.Startup
import Solochain.Node.AuthorAddress
