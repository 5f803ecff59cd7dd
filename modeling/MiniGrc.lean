import MiniGrc.ForStd.Run
import MiniGrc.Spec.PolicyHistory
import MiniGrc.Spec.ReplayOrder
import MiniGrc.Spec.IdempotentAppend
import MiniGrc.Spec.LifecycleGuards
import MiniGrc.Spec.OccurrenceGeneration
import MiniGrc.Spec.Restore
import MiniGrc.Spec.JobRetries
import MiniGrc.Spec.ImportRecords
import MiniGrc.Spec.ImportDeduplication
import MiniGrc.Spec.DirectoryArchive
import MiniGrc.App.EvidenceCapture
import MiniGrc.Spec.EvidenceCapture
import MiniGrc.App.EvidenceBackup
import MiniGrc.Spec.EvidenceBackup
import MiniGrc.App.PolicyUploads
import MiniGrc.Spec.PolicyUploads
import MiniGrc.Spec.UploadFailures
import MiniGrc.App.AuditPackage
import MiniGrc.Spec.AuditSelection
import MiniGrc.App.LoadedVersions
import MiniGrc.Spec.LoadedVersions
import MiniGrc.App.ConnectorResults
import MiniGrc.App.ConnectorLifecycle
import MiniGrc.Spec.ConnectorLifecycle
import MiniGrc.App.JsonValues
import MiniGrc.App.AuditExport
import MiniGrc.ForStd.Stems
import MiniGrc.Spec.AuditIntegrity
import MiniGrc.App.RestoreBackup
import MiniGrc.Spec.RestoreBackup
import MiniGrc.App.Migrations
import MiniGrc.Spec.FindingLifecycle
import MiniGrc.Spec.FindingRetests
import MiniGrc.Spec.FindingSelection
import MiniGrc.Spec.SignIn
import MiniGrc.Spec.UserRequests
import MiniGrc.Spec.Redaction
import MiniGrc.Spec.RedactedActors
import MiniGrc.Spec.ActiveAdmin
import MiniGrc.Spec.EntryNames
import MiniGrc.App.EvidenceUploads
import MiniGrc.App.TrustCenter
import MiniGrc.Spec.TrustCenter
import MiniGrc.Spec.PolicyMigration
import MiniGrc.Spec.ControlMigration
import MiniGrc.Spec.Migrations
import MiniGrc.Spec.ControlTestBasis
import MiniGrc.App.ConcurrentScope
import MiniGrc.Spec.ScopeSingleton
import MiniGrc.App.Registers
import MiniGrc.ForStd.Except
import MiniGrc.App.RegisterConfigs
import MiniGrc.Spec.BulkUpdates
import MiniGrc.App.ConcurrentRegister
import MiniGrc.Spec.LostUpdates
import MiniGrc.App.FrameworkRequirements
import MiniGrc.Spec.RequirementFrameworks
import MiniGrc.Spec.SecretShapedKeys
import MiniGrc.App.ConnectorManifests
import MiniGrc.App.ConnectorInstances
import MiniGrc.Spec.ConnectorCalls
import MiniGrc.Spec.ConnectorConfigs
import MiniGrc.App.RegisterRoutes
import MiniGrc.Spec.RegisterTypes
import MiniGrc.Spec.ConnectorUpgrades
import MiniGrc.Spec.RegisterWrites
import MiniGrc.Spec.Schedules
import MiniGrc.ForStd.Regex
import MiniGrc.App.AiEgress
import MiniGrc.Spec.AiEgress
import MiniGrc.App.AdoptionRuns
import MiniGrc.Spec.AdoptionHistory
import MiniGrc.App.CsvImporters
import MiniGrc.Spec.CsvImporters
import MiniGrc.App.ConnectorRegistry
import MiniGrc.ForStd.Diagnostics
import MiniGrc.App.Dependencies
import MiniGrc.App.MutatingRoutes
import MiniGrc.Spec.CsrfProtection
import MiniGrc.App.ConcurrentPeriods
import MiniGrc.Spec.ControlPeriods
import MiniGrc.App.ConcurrentPolicies
import MiniGrc.Spec.RetiredPolicies
import MiniGrc.App.SystemCatalogs
import MiniGrc.App.ConcurrentCatalogs
import MiniGrc.Spec.CatalogSessions
import MiniGrc.Spec.CatalogInvariant
import MiniGrc.Spec.CatalogReconciliation
import MiniGrc.Spec.ConnectorRegistry
import MiniGrc.ForStd.Dict
import MiniGrc.App.CsvReader
import MiniGrc.App.VendorRoster
import MiniGrc.Spec.RosterDelta
import MiniGrc.Spec.RosterImport
import MiniGrc.Spec.RequirementImports
import MiniGrc.App.DirectorySync
import MiniGrc.Spec.DirectorySync
import MiniGrc.Spec.IdentityPaths
import MiniGrc.App.AwsConnector
import MiniGrc.Spec.AwsChecks
import MiniGrc.Spec.CloudTrailVerdict
import MiniGrc.Spec.MonthSteps
import MiniGrc.Spec.DriveFilenames
import MiniGrc.Spec.ConnectorRequests
import MiniGrc.Spec.JsonTexts
import MiniGrc.ForStd.JsonText
import MiniGrc.App.EvidenceSnapshots
import MiniGrc.Spec.EvidencePayloads
import MiniGrc.Spec.DriveApprovals
import MiniGrc.Spec.VendorAmounts
import MiniGrc.Spec.ReadinessQueue
import MiniGrc.Spec.PinnedVersions
import MiniGrc.Spec.StarterControls
import MiniGrc.ForStd.RevocableRows
import MiniGrc.ForStd.TransactionJournal
import MiniGrc.App.AccessTokens
import MiniGrc.Spec.AccessTokens
import MiniGrc.ForStd.RedirectFlow
import MiniGrc.App.OidcLogin
import MiniGrc.Spec.OidcLogin
import MiniGrc.App.DriveConnections
import MiniGrc.Spec.DriveConnections
import MiniGrc.App.Worker
import MiniGrc.Spec.JobProgress
import MiniGrc.ForStd.LastSetting
import MiniGrc.App.PublicTrustCenter
import MiniGrc.Spec.PublicTrustCenter
import MiniGrc.App.WriteAccess
import MiniGrc.Spec.WriteAccess
import MiniGrc.ForStd.PathPatterns
import MiniGrc.App.Dispatch
import MiniGrc.Spec.Dispatch
