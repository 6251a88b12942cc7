import Automation.Effects
import Automation.PyText
import Automation.Json
import Automation.Regex
import Automation.EventDedup
import Automation.Dispatcher
import Automation.Iteration
import Automation.LegacyPipeline
import Automation.NeedsInfo
import Automation.WebhookClaim
import Automation.Coroutine
import Automation.ApprovalGate
import Automation.PrecommitScan
import Automation.OpenCode
import Automation.AgentMessages
import Automation.AgentState
import Automation.AgentExtract
import Automation.AgentHandlers
import Automation.AgentRunner
import Automation.AgentCancel
import Automation.Compensation
import Automation.AgentStatus
import Automation.CodeScan
import Automation.WebhookStarts
import Automation.WebhookEndpoint
import Automation.ApprovalRouting
import Automation.OutputActions
import Automation.OutputTargets
import Automation.Moves
import Automation.AgentFrame
import Automation.AgentSignals
import Automation.AgentDeferred
import Automation.BranchRules
import Automation.Gateway
import Automation.BranchPolicy
import Automation.EpicFanout
import Automation.BudgetPolicy
import Automation.BudgetAlarms
import Automation.ConcurrencyCap
import Automation.FilterChain
import Automation.BurstWindow
import Automation.BurstDebounce
import Automation.LoopGuard
import Automation.CredentialResolver
import Automation.WorkflowIds
import Automation.Capabilities
import Automation.RunnerActivities
import Automation.TaskAnalysis
import Automation.ExecutionRun
import Automation.RunnerTarget
import Automation.CleanupDecision
import Automation.RunOutcomes
import Automation.DockerHost
import Automation.RunnerRecords
import Automation.PublishedArtifacts
import Automation.Notifications
import Automation.ToolLoop
import Automation.ToolRetries
import Automation.ProviderFallback
import Automation.WebhookAcceptance
import Automation.WebhookRotation
import Automation.Retention
import Automation.GitCredentials
import Automation.RotationFinalize
import Automation.AuditPrune
import Automation.ArchiveSearch
import Automation.PromptPromotion
import Automation.AuditWriter
import Automation.LlmProviders
import Automation.DeptCredentials
import Automation.ActionBatch
import Automation.FrontMatter
import Automation.DescriptionParser
import Automation.Binary64
import Automation.RepoResolver
import Automation.JsonReader
import Automation.TaskAnalyzer
import Automation.AnalysisCodec
import Automation.PromptReload
import Automation.RuleCoercion
import Automation.CredentialDrift
import Automation.RunnerWait
import Automation.Replace
import Automation.PyUrl
import Automation.GitMask
import Automation.FileTree
import Automation.CommitPaths
import Automation.CodePoints
import Automation.HmacTotality
import Automation.CostPredictor
import Automation.Digraph
import Automation.ManifestCycle
import Automation.StartPlans
import Automation.WorkspacePrune
import Automation.Eviction
import Automation.Streaks
import Automation.ExternalAlerts
import Automation.PosixShell
import Automation.Printf
import Automation.CredentialScript
import Automation.ShellCommands
import Automation.RemoteCommand
import Automation.JsonDumps
import Automation.Firecrawl
import Automation.JwksCache
import Automation.PyCalls
import Automation.RbacGuard
import Automation.Substitution
import Automation.Masking
import Automation.Redaction
import Automation.PercentFormat
import Automation.RedactionFilter
import Automation.StrFormat
import Automation.PromptTemplates
import Automation.PrReview
import Automation.GitPush
import Automation.RelyGuarantee
import Automation.IterationAllocation
import Automation.Migrations
