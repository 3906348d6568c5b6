import ImageSearch.Transitions
import ImageSearch.Threads
import ImageSearch.Tables
import ImageSearch.FreeNames
import ImageSearch.Payload
import ImageSearch.BackupState
import ImageSearch.BackupFolder
import ImageSearch.MobileStore
import ImageSearch.TransferService
import ImageSearch.UploadOutcomes
import ImageSearch.AcknowledgedUploads
import ImageSearch.TransferThreads
import ImageSearch.TerminalSessions
import ImageSearch.ConcurrentUploads
import ImageSearch.TransferClients
import ImageSearch.AsyncQueue
import ImageSearch.QueueRuns
import ImageSearch.ProbePorts
import ImageSearch.DeviceIdCodec
import ImageSearch.TransferPipeline
import ImageSearch.PipelineSteps
import ImageSearch.AssetAccounts
import ImageSearch.AccountedAssets
import ImageSearch.DeletedAssets
import ImageSearch.PairingStore
import ImageSearch.PairingService
import ImageSearch.PairingThreads
import ImageSearch.PairingSections
import ImageSearch.ExclusiveClaims
import ImageSearch.PasscodeHolders
import ImageSearch.SessionRecords
import ImageSearch.MismatchResolution
import ImageSearch.RefusedClaims
import ImageSearch.ReferentialStore
import ImageSearch.MobileLibrary
import ImageSearch.FrameStreams
import ImageSearch.AoaFrameCodec
import ImageSearch.PhoneFrameCodec
import ImageSearch.PhoneConnection
import ImageSearch.ConnectionThreads
import ImageSearch.ConnectionGenerations
import ImageSearch.Resynchronisation
import ImageSearch.AoaUploads
import ImageSearch.LostLinks
import ImageSearch.AssetUploadStream
import ImageSearch.AoaStreams
import ImageSearch.StreamCorrelation
import ImageSearch.StagedUploads
import ImageSearch.StagedContents
import ImageSearch.StagedOrphans
import ImageSearch.LanUploads
import ImageSearch.DiskFullUploads
import ImageSearch.CapabilityExchange
import ImageSearch.ThrowingHandlers
import ImageSearch.IsoTimestamps
import ImageSearch.BackupRuns
import ImageSearch.StoredThenAsked
import ImageSearch.TransferCounts
import ImageSearch.SessionOutlooks
import ImageSearch.SessionAgreement
import ImageSearch.FileCatalog
import ImageSearch.IndexCalls
import ImageSearch.IndexedPhotos
import ImageSearch.IndexWorkers
import ImageSearch.PendingPhotos
import ImageSearch.FolderRuns
import ImageSearch.IndexedFolders
import ImageSearch.FolderEvents
import ImageSearch.FolderPaths
import ImageSearch.OwnedFiles
import ImageSearch.OwnedCalls
import ImageSearch.OwnedWorkers
import ImageSearch.FindablePhotos
import ImageSearch.SubtreeFrames
import ImageSearch.FolderDirectories
import ImageSearch.EventScheduling
import ImageSearch.IndexScheduling
import ImageSearch.BuildIndexEnds
import ImageSearch.SearchMatches
import ImageSearch.ConfirmedKeys
import ImageSearch.ServedTransfers
import ImageSearch.GuessedCodes
import ImageSearch.SessionQuotas
import ImageSearch.DeliveredBatches
import ImageSearch.EndedStashes
import ImageSearch.GuardedChannels
import ImageSearch.ConfinedPaths
import ImageSearch.DownloadedImages
import ImageSearch.RelayedSignals
import ImageSearch.UnusedSessionIds
import ImageSearch.WholeFiles
import ImageSearch.PhoneDownloads
import ImageSearch.ReceivedFiles
import ImageSearch.SkippedFiles
import ImageSearch.FailedRequests
import ImageSearch.CachedShares
import ImageSearch.TrustProofs
import ImageSearch.StrictRuns
import ImageSearch.SnapshotCounts
import ImageSearch.WholeBackups
import ImageSearch.CleanStops
import ImageSearch.AnsweredCalls
import ImageSearch.AuthenticatedDeeds
import ImageSearch.StaleBytes
import ImageSearch.FeatureFlags
import ImageSearch.SemanticVersions
import ImageSearch.FolderWatches
import ImageSearch.UpdatePrompts
import ImageSearch.ParentFolders
import ImageSearch.ConsumedStages
import ImageSearch.UploadForms
import ImageSearch.SealedPayloads
import ImageSearch.KeptVerdicts
import ImageSearch.SoleWorkers
import ImageSearch.EncryptedAnswers
import ImageSearch.ScannedLinks
import ImageSearch.FolderTree
