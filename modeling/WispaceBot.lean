import WispaceBot.AccountLink.LinkFence
import WispaceBot.AccountLink.VerifyIntents
import WispaceBot.AccountLink.Welcome
import WispaceBot.Agent.ContextBuild
import WispaceBot.Agent.PrecreateBudget
import WispaceBot.ChatMetering.BulkRecovery
import WispaceBot.ChatMetering.Limits
import WispaceBot.ChatMetering.WriteToolBudget
import WispaceBot.ChatPipeline.CappedText
import WispaceBot.ChatPipeline.Flush
import WispaceBot.ChatQueue.Conservation
import WispaceBot.ChatQueue.Index
import WispaceBot.ChatQueue.Reconcile
import WispaceBot.ChatQueueCore.DebounceConservation
import WispaceBot.Clarification.Readback
import WispaceBot.Clarification.Redelivery
import WispaceBot.DeadLetter.ReplayOnce
import WispaceBot.Execution.CircuitBreaker
import WispaceBot.Execution.FairAdmission
import WispaceBot.Execution.SlotCap
import WispaceBot.Execution.SlotRecovery
import WispaceBot.Reschedule.Binding
import WispaceBot.Reschedule.Budget
import WispaceBot.Reschedule.MemoryStore
import WispaceBot.Reschedule.SingleWrite
import WispaceBot.Reschedule.StaleLease
import WispaceBot.ScheduledReport.AtMostOnce
import WispaceBot.ScheduledReport.DiscordDelivery
import WispaceBot.ScheduledReport.ErrorPaths
import WispaceBot.ScheduledReport.OutboxRuns
import WispaceBot.ScheduledReport.QueuedRetry
import WispaceBot.StudyCalendar.ApiClient
import WispaceBot.StudyCalendar.NextDay
import WispaceBot.StudyReminder.AtMostOnce
import WispaceBot.StudyReminder.MappingScan
import WispaceBot.StudyReminder.OwnershipFence
import WispaceBot.StudyReminder.Resync
import WispaceBot.StudyReminder.Rollover
import WispaceBot.StudyReminder.TerminalOutcome
import WispaceBot.WispaceClient.DataCache
