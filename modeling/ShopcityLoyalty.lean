import ShopcityLoyalty.Lib.Txn
import ShopcityLoyalty.Lib.Table
import ShopcityLoyalty.Lib.Json
import ShopcityLoyalty.Lib.Sha256
import ShopcityLoyalty.Lib.Calendar
import ShopcityLoyalty.Lib.LotBook
import ShopcityLoyalty.Schema
import ShopcityLoyalty.Database
import ShopcityLoyalty.Writes
import ShopcityLoyalty.Policy
import ShopcityLoyalty.LotAllocation
import ShopcityLoyalty.LotMoves
import ShopcityLoyalty.Books
import ShopcityLoyalty.BooksSound
import ShopcityLoyalty.BooksBalance
import ShopcityLoyalty.Settlement
import ShopcityLoyalty.ApprovalExpiry
import ShopcityLoyalty.Idempotency
import ShopcityLoyalty.Earn
import ShopcityLoyalty.Redemption
import ShopcityLoyalty.ApprovalDecision
import ShopcityLoyalty.Reversal
import ShopcityLoyalty.Adjustment
import ShopcityLoyalty.CreditExpirySweep
import ShopcityLoyalty.CaptureOutcomes
import ShopcityLoyalty.Books
import ShopcityLoyalty.Lib.LotBook
import ShopcityLoyalty.BooksSound
import ShopcityLoyalty.BooksBalance
import ShopcityLoyalty.CaptureOutcomes
import ShopcityLoyalty.DecisionOutcomes
import ShopcityLoyalty.ReversalOutcomes
import ShopcityLoyalty.SweepOutcomes
import ShopcityLoyalty.Desk
import ShopcityLoyalty.DeskMoves
import ShopcityLoyalty.Lib.Runs
import ShopcityLoyalty.System
import ShopcityLoyalty.Invariants
import ShopcityLoyalty.Conservation
import ShopcityLoyalty.ApprovalStates
import ShopcityLoyalty.CommitChecks
import ShopcityLoyalty.ReversalOnce
import ShopcityLoyalty.RedeemReverse
import ShopcityLoyalty.Lib.Process
import ShopcityLoyalty.OutboxWorker
import ShopcityLoyalty.OutboxJobs
import ShopcityLoyalty.OutboxCycles
import ShopcityLoyalty.DeadLetters
import ShopcityLoyalty.SmsSubmissions
import ShopcityLoyalty.CreditExpiries
import ShopcityLoyalty.LotLifecycle
import ShopcityLoyalty.EarnForm
import ShopcityLoyalty.OfflineKeys
import ShopcityLoyalty.StrandedRecords
import ShopcityLoyalty.BatchIsolation
import ShopcityLoyalty.FraudFlags
import ShopcityLoyalty.FraudThresholds
import ShopcityLoyalty.ReversalFrequency
import ShopcityLoyalty.Lib.Grouping
import ShopcityLoyalty.RedemptionRows
import ShopcityLoyalty.ReportSummaries
import ShopcityLoyalty.MaterializationStates
import ShopcityLoyalty.BranchBalances
import ShopcityLoyalty.LiabilityPartition
import ShopcityLoyalty.MaterializationSweeps
import ShopcityLoyalty.Reconciliation
import ShopcityLoyalty.Lib.Links
import ShopcityLoyalty.TwoPersonRule
import ShopcityLoyalty.CardLifecycle
import ShopcityLoyalty.Lib.Paging
import ShopcityLoyalty.Listings
import ShopcityLoyalty.PagedListings
import ShopcityLoyalty.AttestationUses
import ShopcityLoyalty.LoginEvidence
import ShopcityLoyalty.SessionAcceptance
import ShopcityLoyalty.FefoAllocation
import ShopcityLoyalty.RestorationPlans
import ShopcityLoyalty.CapturedRows
import ShopcityLoyalty.EarnRates
import ShopcityLoyalty.OverrideAudits
import ShopcityLoyalty.ReceiptWeeks
import ShopcityLoyalty.SettlementArithmetic
import ShopcityLoyalty.AdjustmentRequests
import ShopcityLoyalty.AdjustmentRetries
import ShopcityLoyalty.PolicyChain
import ShopcityLoyalty.ApprovalFigures
import ShopcityLoyalty.ActiveBalances
import ShopcityLoyalty.CardReplacements
import ShopcityLoyalty.CashierMonths
import ShopcityLoyalty.ExpiryMonths
import ShopcityLoyalty.FraudDecisionRuns
import ShopcityLoyalty.SmsResponses
import ShopcityLoyalty.PublicConfig
import ShopcityLoyalty.PublicConfigRuns
import ShopcityLoyalty.SmsBudgets
import ShopcityLoyalty.ExpiryReminders
import ShopcityLoyalty.ReminderRuns
import ShopcityLoyalty.SmsIntents
import ShopcityLoyalty.AdjustmentIdentities
import ShopcityLoyalty.Cookies
import ShopcityLoyalty.DeliveryPolls
import ShopcityLoyalty.EndingBalances
import ShopcityLoyalty.Lib.Clocks
import ShopcityLoyalty.Lib.Csv
import ShopcityLoyalty.Lib.JsonTexts
import ShopcityLoyalty.LocalDays
import ShopcityLoyalty.MoneyInput
import ShopcityLoyalty.ReportExport
import ShopcityLoyalty.RequestTexts
import ShopcityLoyalty.SessionGuard
import ShopcityLoyalty.SmsPartitions
import ShopcityLoyalty.EarnApprovals
import ShopcityLoyalty.FinancialRetries
import ShopcityLoyalty.FinancialRetryRuns
import ShopcityLoyalty.RetriedTransactions
import ShopcityLoyalty.RedemptionApprovals
import ShopcityLoyalty.Lib.Interference
import ShopcityLoyalty.Resubmissions
import ShopcityLoyalty.Lib.Traces
import ShopcityLoyalty.DecisionReplays
import ShopcityLoyalty.Lib.FirstExpiry
import ShopcityLoyalty.FefoOptimality
import ShopcityLoyalty.Lib.Owners
import ShopcityLoyalty.Tenants
import ShopcityLoyalty.RequestReplays
import ShopcityLoyalty.EarnConflicts
import ShopcityLoyalty.OfflineConflicts
