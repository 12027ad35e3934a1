import AgenticRag.Theory.Enforcement
import AgenticRag.Theory.Soundness
import AgenticRag.Theory.Rounds
import AgenticRag.Theory.Noninterference
import AgenticRag.Theory.Sessions
import AgenticRag.Theory.Routing
import AgenticRag.Theory.Scope
import AgenticRag.Theory.Whitelist
import AgenticRag.Theory.Forgery
import AgenticRag.Theory.ReadOnly
import AgenticRag.Theory.Disclosure
import AgenticRag.Theory.Substitution
import AgenticRag.Theory.HalfOpen
import AgenticRag.Theory.SharedBreaker
import AgenticRag.Theory.Escaping
import AgenticRag.Theory.Emission
import AgenticRag.Theory.FailedReports
import AgenticRag.Theory.ApprovalRounds
import AgenticRag.Theory.Planning
import AgenticRag.Theory.Mediation
import AgenticRag.Theory.SkillPolicy
import AgenticRag.Theory.SharedKernel
import AgenticRag.Theory.FilterChain
import AgenticRag.Theory.RoundTrip
import AgenticRag.Theory.PolicyOrder
import AgenticRag.Theory.Binding
import AgenticRag.Theory.RowLimit
import AgenticRag.Theory.GivingUp
import AgenticRag.Theory.Numerals
import AgenticRag.Theory.Quantities.Reading
import AgenticRag.Theory.SizeLimit
import AgenticRag.Theory.RestBreaker
import AgenticRag.Theory.ArtifactStore
import AgenticRag.Theory.EvidenceIds
import AgenticRag.Theory.ReviewHistory
import AgenticRag.Theory.SourceTracking
import AgenticRag.Theory.EvidenceClosure
import AgenticRag.Theory.Pruning
import AgenticRag.Theory.PairResults
import AgenticRag.Theory.PairBudget
import AgenticRag.Theory.JointSupport
import AgenticRag.Theory.ChunkConservation
import AgenticRag.Theory.SqlFallback
import AgenticRag.Theory.FilteredQuality
import AgenticRag.Theory.Dominance
import AgenticRag.Theory.Masking
import AgenticRag.Theory.CompressionLevels
import AgenticRag.Theory.RowCompression
import AgenticRag.Theory.LoopGuard
import AgenticRag.Theory.StopFlag
import AgenticRag.Theory.Layering
import AgenticRag.Theory.CycleSearch
import AgenticRag.Theory.TextCut
import AgenticRag.Theory.StateUpgrade
import AgenticRag.Theory.BraceScan
import AgenticRag.Theory.Reranking
import AgenticRag.Theory.FailureCount
import AgenticRag.Theory.EvidenceNeeds
import AgenticRag.Theory.Crowding
import AgenticRag.Theory.CandidateChoice
import AgenticRag.Theory.FailedPlans
import AgenticRag.Theory.FaithfulnessGate
import AgenticRag.Theory.RoutedRuns
