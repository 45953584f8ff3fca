import GhostArk.ReceiptSchema.StrictJsonAgreement
import GhostArk.ReceiptSchema.IntegerSeparation
import GhostArk.EnforcementRuntime.Policy.LoadOrder
import GhostArk.EnforcementRuntime.Vault.ConcurrentErasure
import GhostArk.EnforcementRuntime.Vault.StoreEquivalence
import GhostArk.EnforcementRuntime.Runtime.ReplayProtection
import GhostArk.EnforcementRuntime.Runtime.MemoryAtomicity
import GhostArk.EnforcementRuntime.Receipts.LedgerVerification
import GhostArk.EnforcementRuntime.Receipts.DynamoDbEmission
import GhostArk.ResearchFrontier.AuthenticatedOrdering
import GhostArk.EnforcementRuntime.Receipts.CheckpointExactness
import GhostArk.Tools.WitnessConsistency
import GhostArk.Tools.ExactDecimal
import GhostArk.Verifiers.NodeV2Soundness
import GhostArk.Verifiers.NodeDecisionCompleteness
import GhostArk.Verifiers.CustodyTrace
import GhostArk.Verifiers.PssVerification
import GhostArk.Verifiers.SpkiParser
import GhostArk.EnforcementRuntime.Evidence.UntrustedLabels
import GhostArk.ResearchFrontier.Crdt.MessageBus
import GhostArk.ResearchFrontier.Crdt.StateRoot
import GhostArk.ResearchFrontier.Oracle.ChunkedResponse
import GhostArk.ResearchFrontier.Oracle.StrictFraming
import GhostArk.ResearchFrontier.Policy.ConvexJurisprudence
import GhostArk.ResearchFrontier.SpeculationDirtyKeys
import GhostArk.ResearchFrontier.Oracle.ByteReconciler
import GhostArk.PolicyCompiler.TenantIsolation
import GhostArk.ResearchFrontier.Telemetry.CcCohortLedger
import GhostArk.Dab.LedgerAccounting
import GhostArk.Dab.ReceiptBinding
import GhostArk.Dab.Mvcc
import GhostArk.Dab.IpcClient
import GhostArk.ResearchFrontier.Distributed.ReceiptIndex
import GhostArk.ResearchFrontier.Distributed.ConsensusCheckpoint
import GhostArk.ResearchFrontier.Lobian.GlUnlimitedSearch
import GhostArk.EnforcementRuntime.Receipts.EnvelopeEncoding
import GhostArk.EnforcementRuntime.Receipts.ExecutionBoundary
import GhostArk.Dab.CollectionTiming
import GhostArk.Dab.DanfNormalForm
import GhostArk.ResearchFrontier.Lobian.KeyCollisions
import GhostArk.ResearchFrontier.Lobian.LobianObstacle
import GhostArk.EnforcementRuntime.Retrieval.PromptContext
import GhostArk.ResearchFrontier.Zk.IncrementalMerkleAccumulator
import GhostArk.LineageModel.Graph
import GhostArk.EnforcementRuntime.Evidence.FloorStratification
import GhostArk.EnforcementRuntime.Gateway.OccGate
import GhostArk.PolicyCompiler.NamespaceCollisions
import GhostArk.PolicyCompiler.PatternMatching
import GhostArk.ResearchFrontier.EvidenceStaleness
import GhostArk.ResearchFrontier.CcCorrelation
import GhostArk.ResearchFrontier.HumanReview
