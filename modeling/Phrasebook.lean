import Phrasebook.Main
import Phrasebook.Proofs.AgreeingSources
import Phrasebook.Proofs.Assignment
import Phrasebook.Proofs.CallPlaces
import Phrasebook.Proofs.CallSpans
import Phrasebook.Proofs.CarriedPhrases
import Phrasebook.Proofs.ConsistentFeeds
import Phrasebook.Proofs.DeletedSources
import Phrasebook.Proofs.FailedReconciliation
import Phrasebook.Proofs.FlushedPhrases
import Phrasebook.Proofs.FreeKeys
import Phrasebook.Proofs.IgnoredDirectories
import Phrasebook.Proofs.IncompleteSurveys
import Phrasebook.Proofs.IndexRefresh
import Phrasebook.Proofs.KeyStability
import Phrasebook.Proofs.LiteralValues
import Phrasebook.Proofs.OutputPlaces
import Phrasebook.Proofs.ProductionBuilds
import Phrasebook.Proofs.Pruning
import Phrasebook.Proofs.References
import Phrasebook.Proofs.RepeatedRewriting
import Phrasebook.Proofs.RequestAccounting
import Phrasebook.Proofs.SettingsSearch
import Phrasebook.Proofs.SourceKeys
import Phrasebook.Proofs.SurveyOrder
import Phrasebook.Proofs.SyncFixpoint
import Phrasebook.Proofs.Ticks
import Phrasebook.Proofs.WatchCoherence
import Phrasebook.Proofs.WrittenCalls
