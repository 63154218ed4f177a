import NodeTopology.Main
import NodeTopology.Proofs.RetryRun
import NodeTopology.Proofs.RetryCourse
import NodeTopology.Proofs.ClusterTrace
import NodeTopology.Proofs.LabelOverlay
import NodeTopology.Proofs.LabelLayers
import NodeTopology.Proofs.ConflictProtocol
import NodeTopology.Proofs.RequestTrace
import NodeTopology.Proofs.InstanceListing
import NodeTopology.Proofs.LabelRun
import NodeTopology.Proofs.Truthfulness
import NodeTopology.Proofs.Provenance
import NodeTopology.Proofs.Convergence
import NodeTopology.Proofs.Pagination
import NodeTopology.Proofs.LiveListing
import NodeTopology.Proofs.Secrecy
import NodeTopology.Proofs.FailureClosure
import NodeTopology.Proofs.EarnedSuccess
import NodeTopology.Proofs.SecretVerdicts
import NodeTopology.Proofs.CredentialPaths
import NodeTopology.Proofs.TokenVerdicts
import NodeTopology.Proofs.FailingPages
import NodeTopology.Proofs.PlainAddresses
import NodeTopology.Proofs.PageGrammar
import NodeTopology.Proofs.ZoneRegions
import NodeTopology.Proofs.IncompleteRecords
import NodeTopology.Proofs.NodeReading
import NodeTopology.Proofs.AddressLiterals
import NodeTopology.Proofs.BaseAddresses
import NodeTopology.Proofs.KeyEncoding
import NodeTopology.Proofs.SessionBalance
