import Discography.Api.Sample
import Discography.Main
import Discography.Proofs.History
import Discography.Proofs.Spelling
import Discography.Proofs.RowInvariant
import Discography.Proofs.ListingOrder
import Discography.Proofs.AlbumMap
import Discography.Proofs.SharedSession
import Discography.Proofs.TransactionScope
import Discography.Proofs.Queries
import Discography.Proofs.Tiling
import Discography.Proofs.CallShapes
import Discography.Proofs.Serialisation
import Discography.Proofs.RemovalAnswer
import Discography.Proofs.DraftReading
import Discography.Proofs.SentBack
import Discography.Proofs.ErrorReports
import Discography.Proofs.Disclosure
import Discography.Proofs.ListingAnswer
import Discography.Proofs.CallRange
import Discography.Proofs.StorageFailures
import Discography.Proofs.FirstRefusal
import Discography.Proofs.LastMembers
import Discography.Proofs.BodyVerdict
import Discography.Proofs.IdSpellings
import Discography.Proofs.PageChecks
import Discography.Proofs.Instants
import Discography.Proofs.ShownAlbum
import Discography.Proofs.HealthReports
import Discography.Proofs.LogLines
import Discography.Proofs.RememberedSettings
import Discography.Proofs.MigrationAddress
import Discography.Proofs.MigratedStorage
import Discography.Proofs.SettingValues
import Discography.Proofs.LoggingSetups
import Discography.Proofs.PoolLifetimes
