import OfflineWebArchiver.Properties.Attempts
import OfflineWebArchiver.Properties.Control
import OfflineWebArchiver.Properties.Fencing
import OfflineWebArchiver.Properties.Locking
import OfflineWebArchiver.Properties.Replay
import OfflineWebArchiver.Properties.Stranding
import OfflineWebArchiver.Properties.ArchivePaths
import OfflineWebArchiver.Properties.Serving
import OfflineWebArchiver.Properties.Tokenizing
import OfflineWebArchiver.Properties.VaultKeys
import OfflineWebArchiver.Properties.Handout
import OfflineWebArchiver.Properties.ArchiveRoundTrip
import OfflineWebArchiver.Properties.OpenRecovery
import OfflineWebArchiver.Properties.ProfileAtomicity
import OfflineWebArchiver.Properties.ProfileInterleaving
import OfflineWebArchiver.Properties.ProjectFrame
import OfflineWebArchiver.Properties.ProjectSharing
import OfflineWebArchiver.Properties.Browser
import OfflineWebArchiver.Properties.OsProtected
import OfflineWebArchiver.Properties.History
import OfflineWebArchiver.Properties.Listing
import OfflineWebArchiver.Properties.ClaimOrder
import OfflineWebArchiver.Properties.RecoveryCheck
import OfflineWebArchiver.Properties.AssetOwnership
import OfflineWebArchiver.Properties.PartialPaths
import OfflineWebArchiver.Properties.Expiry
import OfflineWebArchiver.Properties.ProxyAffinity
import OfflineWebArchiver.Properties.SchedulerLoad
import OfflineWebArchiver.Properties.Probes
import OfflineWebArchiver.Properties.Interception
import OfflineWebArchiver.Properties.ReplayEvidence
import OfflineWebArchiver.Properties.CaptureReplay
import OfflineWebArchiver.Properties.AssetSources
import OfflineWebArchiver.Properties.TokenPositions
import OfflineWebArchiver.Properties.RewriteSpans
import OfflineWebArchiver.Properties.DenyRules
import OfflineWebArchiver.Properties.PathRules
import OfflineWebArchiver.Properties.ScopeIdentity
import OfflineWebArchiver.Properties.DenyDominance
import OfflineWebArchiver.Properties.PathSegments
import OfflineWebArchiver.Properties.FairSelection
import OfflineWebArchiver.Properties.SrcsetRoundTrip
import OfflineWebArchiver.Properties.AssetReuse
import OfflineWebArchiver.Properties.OriginBudget
import OfflineWebArchiver.Properties.JobAccounting
import OfflineWebArchiver.Properties.DelayedJobs
import OfflineWebArchiver.Properties.ArchiveInspection
import OfflineWebArchiver.Properties.ProxyImport
import OfflineWebArchiver.Properties.DerivedProxyIds
import OfflineWebArchiver.Properties.ImportForms
import OfflineWebArchiver.Properties.ProxyHealth
import OfflineWebArchiver.Properties.RestartedDownload
import OfflineWebArchiver.Properties.ReplayIdentity
import OfflineWebArchiver.Properties.CanonicalAliases
import OfflineWebArchiver.Properties.AddressClasses
import OfflineWebArchiver.Properties.AtomicFiles
import OfflineWebArchiver.Properties.QueueEntries
import OfflineWebArchiver.Properties.InteractionPlans
