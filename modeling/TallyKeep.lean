import TallyKeep.Library.Table
import TallyKeep.Library.IndexedTable
import TallyKeep.Library.CoinMarks
import TallyKeep.Library.Transition
import TallyKeep.Library.History
import TallyKeep.Library.Stepwise
import TallyKeep.Library.Binary64
import TallyKeep.Library.Dispatch
import TallyKeep.Library.Regex
import TallyKeep.Library.CallText
import TallyKeep.Domain
import TallyKeep.Models
import TallyKeep.Models.Custodial
import TallyKeep.Models.Holding
import TallyKeep.Infrastructure.Secrets
import TallyKeep.Infrastructure.EventBus
import TallyKeep.Repositories
import TallyKeep.Repositories.Treasury
import TallyKeep.Repositories.Custodial
import TallyKeep.Repositories.Holding
import TallyKeep.Services.UtxoHygiene
import TallyKeep.Services.ChainProcessing
import TallyKeep.Services.ChainScan
import TallyKeep.Services.Banking
import TallyKeep.Services.Treasury
import TallyKeep.Services.CredentialRotation
import TallyKeep.Services.Holding
import TallyKeep.Services.Analysis
import TallyKeep.Adapters.Descriptor
import TallyKeep.Adapters.DescriptorParsing
import TallyKeep.Adapters.DescriptorTrees
import TallyKeep.Adapters.Kraken
import TallyKeep.Api.InternalCustodial
import TallyKeep.Workers.ChainListener
import TallyKeep.Workers.SweepEngine
import TallyKeep.Workers.CustodialReconciler
import TallyKeep.Workers.SelfCustodyPoller
import TallyKeep.Workers.CategorizerSuggester
import TallyKeep.System
import TallyKeep.TreasurySystem
import TallyKeep.CustodialSystem
import TallyKeep.HoldingSystem
import TallyKeep.Proofs.HoldingSteps
import TallyKeep.Proofs.HoldingBook
import TallyKeep.Proofs.LoadableHoldings
import TallyKeep.Proofs.GapCoverage
import TallyKeep.Proofs.WalletUniqueness
import TallyKeep.Proofs.HoldingLoads
import TallyKeep.Interleaving
import TallyKeep.Proofs.ChainCoins
import TallyKeep.Proofs.ChainBooking
import TallyKeep.Proofs.ChainProcessing
import TallyKeep.Proofs.CoinBook
import TallyKeep.Proofs.Conservation
import TallyKeep.Proofs.SpentOrder
import TallyKeep.Proofs.ChainScan
import TallyKeep.Proofs.ListenerPhase
import TallyKeep.Proofs.Banking
import TallyKeep.Proofs.SystemInvariant
import TallyKeep.Proofs.RequestSteps
import TallyKeep.Proofs.CoinOwners
import TallyKeep.Proofs.Confirmation
import TallyKeep.Proofs.EntryLinks
import TallyKeep.Proofs.InvoiceSettlement
import TallyKeep.Proofs.PaymentLifecycle
import TallyKeep.Proofs.Submission
import TallyKeep.Proofs.InFlight
import TallyKeep.Proofs.BroadcastRace
import TallyKeep.Proofs.FreshAddress
import TallyKeep.Proofs.OutputCredit
import TallyKeep.Proofs.Heights
import TallyKeep.Proofs.BroadcastRecord
import TallyKeep.Proofs.SweepSessions
import TallyKeep.Proofs.SweepTriggers
import TallyKeep.Proofs.PollRounds
import TallyKeep.Proofs.ManualSweeps
import TallyKeep.Proofs.PolicyWrites
import TallyKeep.Proofs.SweepPolicies
import TallyKeep.Proofs.ExecutionSteps
import TallyKeep.Proofs.TreasurySteps
import TallyKeep.Proofs.TreasuryRefinement
import TallyKeep.Proofs.DryRuns
import TallyKeep.Proofs.SweepCaps
import TallyKeep.Proofs.SweepCooldowns
import TallyKeep.Proofs.PollRecords
import TallyKeep.Proofs.SecretStore
import TallyKeep.Proofs.SecretContract
import TallyKeep.Proofs.FirstRunSetup
import TallyKeep.Proofs.CredentialRotation
import TallyKeep.Proofs.SpendableInputs
import TallyKeep.Proofs.PollCycles
import TallyKeep.Proofs.ConnectionStates
import TallyKeep.Proofs.ThresholdDelivery
import TallyKeep.Proofs.Reconciliation
import TallyKeep.Proofs.EntryClaims
import TallyKeep.Proofs.LedgerPages
import TallyKeep.Proofs.AmountAgreement
import TallyKeep.Proofs.LedgerMirror
import TallyKeep.Proofs.WithdrawalLifecycle
import TallyKeep.Proofs.CategorizationEvents
import TallyKeep.Proofs.ClassificationAgreement
import TallyKeep.Proofs.DescriptorTexts
import TallyKeep.Proofs.VaultAcceptSet
import TallyKeep.Proofs.CheckedCredentials
import TallyKeep.Proofs.DeviceAuthorisation
import TallyKeep.Proofs.StreamAccounting
import TallyKeep.Proofs.LedgerOrder
import TallyKeep.Proofs.HealthItems
import TallyKeep.Proofs.PersistFirst
import TallyKeep.Proofs.ExactlyOnce
import TallyKeep.Proofs.AttemptRecords
import TallyKeep.Proofs.ScanCompleteness
import TallyKeep.Library.SharedGroups
import TallyKeep.Proofs.ReuseFlags
import TallyKeep.Proofs.EntryDirections
import TallyKeep.Adapters.ConcreteDescriptors
import TallyKeep.Proofs.ShownIndices
import TallyKeep.Proofs.ScanRounds
import TallyKeep.Proofs.ScanAttribution
import TallyKeep.Proofs.ScanAgreement
import TallyKeep.Models.Schema
import TallyKeep.Repositories.DeleteCascade
import TallyKeep.Proofs.CleanDeletion
import TallyKeep.Proofs.Base58Keys
import TallyKeep.Proofs.AmountTexts
import TallyKeep.Proofs.TopicGlobs
import TallyKeep.Proofs.PassphraseGuessing
import TallyKeep.Proofs.LedgerWalks
import TallyKeep.Proofs.BalanceViews
import TallyKeep.Proofs.SweepFunding
import TallyKeep.Proofs.FixedWallets
import TallyKeep.Library.RegexPieces
import TallyKeep.Adapters.MultisigClauses
import TallyKeep.Proofs.ClauseTexts
import TallyKeep.Proofs.ShownKeys
import TallyKeep.Proofs.MultisigParameters
import TallyKeep.Proofs.HoldingHistory
import TallyKeep.Proofs.BankingHistory
import TallyKeep.Workers.ListenerLoop
import TallyKeep.Proofs.RecordIds
import TallyKeep.Proofs.ListenerThread
import TallyKeep.Proofs.ListenerAnnouncements
import TallyKeep.Proofs.ListenerBlocks
import TallyKeep.Proofs.Redelivery
import TallyKeep.Proofs.ListenerTruth
import TallyKeep.Proofs.References
import TallyKeep.Proofs.DeletionRefinement
import TallyKeep.Proofs.PollingGate
