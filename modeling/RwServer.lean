import RwServer.Foundation.RingBuffer
import RwServer.Foundation.Run
import RwServer.Foundation.Calls
import RwServer.Foundation.Timeline
import RwServer.Foundation.Table
import RwServer.Station.StateLog
import RwServer.Station.Transitions
import RwServer.Station.Chain
import RwServer.Metrics.StateTally
import RwServer.Replay.Reconcile
import RwServer.Foundation.ReadCommitted
import RwServer.Database.Tables
import RwServer.Database.StateTx
import RwServer.Metrics.HourCounts
import RwServer.Cycle.Complete
import RwServer.Cycle.Effects
import RwServer.Cycle.Intervals
import RwServer.Cycle.ConcurrentImmediate
import RwServer.Cycle.ConcurrentOpenClose
import RwServer.Station.ConcurrentSplit
import RwServer.Station.ConcurrentJobs
import RwServer.Foundation.DelayQueue
import RwServer.Foundation.FilterTree
import RwServer.Detection.Schedule
import RwServer.Detection.PendingTimer
import RwServer.Detection.StaleTimer
import RwServer.Metrics.LiveCounts
import RwServer.Foundation.Windows
import RwServer.Metrics.Shifts
import RwServer.Metrics.Buckets
import RwServer.Metrics.Scaffold
import RwServer.Metrics.HourWindows
import RwServer.Foundation.Overlay
import RwServer.Metrics.Upsert
import RwServer.Metrics.Rollup
import RwServer.Metrics.RollupExact
import RwServer.Metrics.BadItems
import RwServer.Metrics.Durations
import RwServer.Metrics.EnsureTicks
import RwServer.Metrics.TimeBased
import RwServer.Metrics.Archive
import RwServer.Metrics.ArchiveSteps
import RwServer.Metrics.ConcurrentArchive
import RwServer.Metrics.RecalcSteps
import RwServer.Metrics.ConcurrentRecalc
import RwServer.Metrics.TickSteps
import RwServer.Metrics.FinalValues
import RwServer.Foundation.Grouping
import RwServer.Materials.Tables
import RwServer.Materials.Usage
import RwServer.Materials.Balance
import RwServer.Materials.OwnUnit
import RwServer.Materials.UnitChanges
import RwServer.Materials.ConcurrentFlush
import RwServer.Orders.Tables
import RwServer.Orders.Operations
import RwServer.Orders.Coherence
import RwServer.Orders.FinishedOrders
import RwServer.Orders.ConcurrentAllocation
import RwServer.Orders.DispositionLogs
import RwServer.Reports.ShiftAttribution
import RwServer.Reports.QueryFilters
import RwServer.Reports.FilterAgreement
import RwServer.Metrics.LocalDays
import RwServer.Metrics.LiveSums
import RwServer.Shift.Materialize
import RwServer.Shift.ScopesApart
import RwServer.Shift.FutureInstances
import RwServer.Materials.ScheduleChanges
import RwServer.Metrics.ScheduleEdits
import RwServer.Foundation.OrderedMap
import RwServer.Foundation.JsValue
import RwServer.Processor.BoundedRuntime
import RwServer.Processor.TagSnapshots
import RwServer.Processor.StationEvents
import RwServer.Processor.AnyTrigger
import RwServer.Processor.Hydration
import RwServer.Processor.CacheRefresh
import RwServer.Materials.AltGroups
import RwServer.Foundation.ParentMap
import RwServer.Facility.ConcurrentMove
import RwServer.Foundation.VersionedConfig
import RwServer.Config.VersionedUpdates
import RwServer.Station.ConcurrentExecutions
import RwServer.Device.ClaimCodes
import RwServer.Device.ConcurrentCommands
import RwServer.Foundation.VersionedView
import RwServer.Device.GatewaySpec
import RwServer.Device.ConcurrentSpecs
import RwServer.Auth.RefreshTokens
import RwServer.Auth.EndSessions
import RwServer.Auth.LoginLockout
import RwServer.Foundation.FirstByKey
import RwServer.Foundation.AsyncQueue
import RwServer.Metrics.ValueStream
import RwServer.Metrics.CurrentValues
import RwServer.Account.Directory
import RwServer.Account.WorkspaceOwners
import RwServer.Account.Ownership
import RwServer.Employee.Identities
import RwServer.Account.PasswordTokens
import RwServer.Employee.Logons
import RwServer.Processor.EventBatcher
import RwServer.Foundation.Clipping
import RwServer.Metrics.JobTally
import RwServer.Metrics.TallyParts
import RwServer.Foundation.WindowWalk
import RwServer.Metrics.RangeHours
import RwServer.Metrics.FrozenDurations
import RwServer.Foundation.LastWrite
import RwServer.Metrics.JobRecompute
import RwServer.Foundation.Join
import RwServer.Metrics.JobSync
import RwServer.Shift.ReferredInstances
import RwServer.Metrics.JobTick
import RwServer.Metrics.JobTickAgreement
import RwServer.Shift.BusinessDates
import RwServer.Shift.Ticks
import RwServer.Materials.RoundedUsage
import RwServer.Materials.ShiftOfCycle
import RwServer.Orders.FirstOrder
import RwServer.Orders.NextNumber
import RwServer.Materials.Duplicate
import RwServer.Facility.WorkcenterTree
import RwServer.Reports.IncompleteRules
import RwServer.Processor.MatchedConditions
import RwServer.Processor.CandidateIndex
import RwServer.Processor.RunningCalls
import RwServer.Processor.Dispatcher
import RwServer.Station.Stretches
import RwServer.Station.Blocks
import RwServer.Metrics.BucketReports
import RwServer.Reports.CycleFilters
import RwServer.Reports.CycleFilterAgreement
import RwServer.Metrics.OeeRatios
import RwServer.Account.SiteAccess
import RwServer.Device.GroupedPoints
import RwServer.Metrics.BucketWalk
import RwServer.Metrics.TtlCache
import RwServer.Foundation.EditedRows
import RwServer.Station.EventEdits
import RwServer.Foundation.Broadcast
import RwServer.Metrics.EventBridge
import RwServer.Foundation.Memo
import RwServer.Metrics.EntityPaths
import RwServer.Metrics.CachedLookups
import RwServer.Foundation.ForestSums
import RwServer.Metrics.ParentRollup
import RwServer.Foundation.Separated
import RwServer.Processor.Topics
import RwServer.Processor.Messages
import RwServer.Processor.Listener
