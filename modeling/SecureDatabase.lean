import SecureDatabase.Foundation.Program
import SecureDatabase.Foundation.Table
import SecureDatabase.Foundation.Base64
import SecureDatabase.Foundation.Text
import SecureDatabase.Foundation.Aead
import SecureDatabase.Foundation.Sha256
import SecureDatabase.Foundation.Json
import SecureDatabase.Foundation.Plonkish
import SecureDatabase.Foundation.Lease
import SecureDatabase.Foundation.Primality
import SecureDatabase.Foundation.Environment
import SecureDatabase.Foundation.SqlText
import SecureDatabase.Foundation.SqlLexer
import SecureDatabase.Foundation.IpAddress
import SecureDatabase.Foundation.Occurrences
import SecureDatabase.Foundation.Uri
import SecureDatabase.Foundation.TwoRuns
import SecureDatabase.Foundation.Histories
import SecureDatabase.Foundation.FileSystem
import SecureDatabase.Foundation.Double
import SecureDatabase.Basic
import SecureDatabase.PoolRotation
import SecureDatabase.LeaseRotation
import SecureDatabase.LeaseBooks
import SecureDatabase.NativeConfig
import SecureDatabase.RefreshTiming
import SecureDatabase.SecretsIsolation
import SecureDatabase.PgbouncerGate
import SecureDatabase.Envelope
import SecureDatabase.TorTables
import SecureDatabase.TorAuth
import SecureDatabase.TorChanges
import SecureDatabase.TorCalls
import SecureDatabase.TicketLifecycle
import SecureDatabase.TicketProgress
import SecureDatabase.TicketCollection
import SecureDatabase.CredentialRecords
import SecureDatabase.EntryOnions
import SecureDatabase.ProtectedColumns
import SecureDatabase.TorReads
import SecureDatabase.Transplant
import SecureDatabase.Recovery
import SecureDatabase.LeaseLifetime
import SecureDatabase.Admission
import SecureDatabase.ZkVerification
import SecureDatabase.ZkCircuits
import SecureDatabase.ZkProver
import SecureDatabase.CircuitCompleteness
import SecureDatabase.PallasField
import SecureDatabase.Commitments
import SecureDatabase.ProcessIsolation
import SecureDatabase.VerifierChecks
import SecureDatabase.StatementAgreement
import SecureDatabase.ZkStore
import SecureDatabase.VerifiedFlag
import SecureDatabase.GuardHealth
import SecureDatabase.GuardHistory
import SecureDatabase.GuardListing
import SecureDatabase.OwnershipRepair
import SecureDatabase.AttestationLog
import SecureDatabase.NonceWindow
import SecureDatabase.AttestationInvalidation
import SecureDatabase.MeasurementPolicy
import SecureDatabase.StoredProofs
import SecureDatabase.PolicyRestrictions
import SecureDatabase.PeerAttestation
import SecureDatabase.BrokerClientConfig
import SecureDatabase.LoopbackGate
import SecureDatabase.SpiffeIdentity
import SecureDatabase.RepairTargets
import SecureDatabase.QuotedNames
import SecureDatabase.ReportData
import SecureDatabase.SealedColumns
import SecureDatabase.CredentialRevocation
import SecureDatabase.RateLimits
import SecureDatabase.SealedConfig
import SecureDatabase.AtomicOutputs
import SecureDatabase.TornOutputs
import SecureDatabase.Startup
import SecureDatabase.StartupRules
import SecureDatabase.ExtensionBooks
import SecureDatabase.ExtensionGate
import SecureDatabase.DecisionCache
import SecureDatabase.EvidenceTrail
import SecureDatabase.Foundation.Embedding
import SecureDatabase.StaticStartup
import SecureDatabase.MigrateCommand
import SecureDatabase.MigrationRuns
