import FusionRouter.Compiler.ContentHash
import FusionRouter.Scheduler.Progress
import FusionRouter.Scheduler.FailureReport
import FusionRouter.Scheduler.ScheduleIndependence
import FusionRouter.Scheduler.LoopIteration
import FusionRouter.Scheduler.LeaseEpochs
import FusionRouter.Scheduler.LeaseLifetime
import FusionRouter.Scheduler.Polling
import FusionRouter.Scheduler.DeadNodes
import FusionRouter.Runtime.ToolPermission
import FusionRouter.Runtime.Branches
import FusionRouter.Host.Answer
import FusionRouter.Host.NewestMessage
import FusionRouter.Host.TerminalEvent
import FusionRouter.Host.QuotaAccounting
import FusionRouter.Host.QuotaLedger
import FusionRouter.Resource.StreamSpend
import FusionRouter.Transport.HttpStream
import FusionRouter.Providers.SseChunking
import FusionRouter.Server.AnthropicAgreement
import FusionRouter.Providers.BreakerCalls
import FusionRouter.Providers.BreakerThreads
import FusionRouter.Plugin.Transport
import FusionRouter.AgentState.MergeLaws
import FusionRouter.AgentState.Reasoning
import FusionRouter.AgentState.ToolOrder
import FusionRouter.Session.Checkpoints
import FusionRouter.Session.Isolation
import FusionRouter.Session.Interchange
import FusionRouter.FusionIr.Agreement
import FusionRouter.FusionIr.Conditional
import FusionRouter.FusionIr.ProviderFree
import FusionRouter.Host.PolicyAdmin
import FusionRouter.Host.PolicyVersion
import FusionRouter.Config.Reload
import FusionRouter.Planner.PlanIdentity
import FusionRouter.Providers.ToolCalls
import FusionRouter.Compiler.PolicyPass
import FusionRouter.Runtime.ToolLoop
import FusionRouter.Resource.MeterTotals
import FusionRouter.Tools.BoundedRead
import FusionRouter.Types.Monetary
import FusionRouter.AgentState.SkillResponse
import FusionRouter.Events.CheckpointProjection
import FusionRouter.Plugin.Registration
import FusionRouter.Release.Signing
import FusionRouter.Host.RecentMessages
