import GatedStore.Json.Reader
import GatedStore.Routing.Catalog
import GatedStore.Service.Start
import GatedStore.Settings.Sources
import GatedStore.Store.Script
import GatedStore.Wire
import GatedStore.Proofs.Matching
import GatedStore.Proofs.Specificity
import GatedStore.Proofs.Resolution
import GatedStore.Proofs.IdText
import GatedStore.Proofs.PathText
import GatedStore.Proofs.PatternText
import GatedStore.Proofs.OperationWays
import GatedStore.Proofs.ServiceRoutes
import GatedStore.Proofs.StoreSteps
import GatedStore.Proofs.ResourceStore
import GatedStore.Proofs.ServiceSteps
import GatedStore.Proofs.Ledger
import GatedStore.Proofs.ServiceLedger
import GatedStore.Proofs.Gate
import GatedStore.Proofs.ServiceFailures
import GatedStore.Proofs.Runs
import GatedStore.Proofs.Numbering
import GatedStore.Proofs.Survivors
import GatedStore.Proofs.Privilege
import GatedStore.Proofs.StoreAtomicity
import GatedStore.Proofs.JsonStrings
import GatedStore.Proofs.RegistrationOrder
import GatedStore.Proofs.JsonNumbers
import GatedStore.Proofs.JsonValues
import GatedStore.Proofs.PayloadRoundTrip
import GatedStore.Proofs.PatternFilling
import GatedStore.Proofs.CatalogReplay
import GatedStore.Proofs.LiveRoutes
import GatedStore.Proofs.RouteAddition
import GatedStore.Proofs.ScriptRuns
import GatedStore.Proofs.BulkRemoval
import GatedStore.Proofs.BodyIds
import GatedStore.Proofs.DeskRequests
import GatedStore.Proofs.SkippedScalars
import GatedStore.Proofs.JsonSkipping
import GatedStore.Proofs.StoreLocality
import GatedStore.Proofs.Independence
import GatedStore.Proofs.JsonAgreement
import GatedStore.Proofs.RecordReading
import GatedStore.Proofs.WireRoundTrip
import GatedStore.Proofs.RemovalShapes
import GatedStore.Proofs.RemovalSpellings
import GatedStore.Proofs.RecordText
import GatedStore.Proofs.RecordParts
import GatedStore.Proofs.EditGrammar
import GatedStore.Proofs.IdChannels
import GatedStore.Proofs.GrantOrder
import GatedStore.Proofs.BasePaths
import GatedStore.Proofs.Startup
import GatedStore.Proofs.EditOfCreation
import GatedStore.Proofs.PatternShapes
import GatedStore.Proofs.PatternSubstitution
import GatedStore.Proofs.PatternConcatenation
import GatedStore.Proofs.RequestSpellings
import GatedStore.Proofs.CatalogSearch
