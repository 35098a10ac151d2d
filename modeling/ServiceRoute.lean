import ServiceRoute.Json.Forms
import ServiceRoute.Json.Writer
import ServiceRoute.RoutePlanner
import ServiceRoute.RoutingServer.Client
import ServiceRoute.Settings.Document
import ServiceRoute.Settings.Environment
import ServiceRoute.Store.DirectEdits
import ServiceRoute.Store.Services
import ServiceRoute.Tour.GreatCircle
import ServiceRoute.Proofs.Planning.InStep
import ServiceRoute.Proofs.Relocation.Permutation
import ServiceRoute.Proofs.Corridor.Permutation
import ServiceRoute.Proofs.Number.Comparison
import ServiceRoute.Proofs.Number.Extremes
import ServiceRoute.Proofs.Corridor.Regrouping
import ServiceRoute.Proofs.Corridor.Clustering
import ServiceRoute.Proofs.Corridor.Stability
import ServiceRoute.Proofs.Corridor.Gathering
import ServiceRoute.Proofs.Corridor.Runs
import ServiceRoute.Proofs.Corridor.Travel
import ServiceRoute.Proofs.FinalRoute.Entries
import ServiceRoute.Proofs.LegCache.Lookup
import ServiceRoute.Proofs.RoutePlanner.Resolution
import ServiceRoute.Proofs.Tour.DepotTrip
import ServiceRoute.Proofs.Tour.RestoredStreets
import ServiceRoute.Proofs.RoutePlanner.Stages
import ServiceRoute.Proofs.RoutePlanner.Trace
import ServiceRoute.Proofs.RoutePlanner.Membership
import ServiceRoute.Proofs.RoutePlanner.Uncached
import ServiceRoute.Proofs.Store.History
import ServiceRoute.Proofs.Store.Operations
import ServiceRoute.Proofs.Store.Filing
import ServiceRoute.Proofs.Store.Transaction
import ServiceRoute.Proofs.Store.Fileable
import ServiceRoute.Proofs.RoutePlanner.FinalLegs
import ServiceRoute.Proofs.RoutePlanner.Atomicity
import ServiceRoute.Proofs.RoutePlanner.FiledRun
import ServiceRoute.Proofs.Relocation.Shortening
import ServiceRoute.Proofs.Corridor.Refined
import ServiceRoute.Proofs.Corridor.Sanity
import ServiceRoute.Proofs.RoutePlanner.RefinedRoute
import ServiceRoute.Proofs.Selection.Candidates
import ServiceRoute.Proofs.Lifecycle.Calls
import ServiceRoute.Proofs.Lifecycle.ClosedRuns
import ServiceRoute.Proofs.Lifecycle.FinishedRuns
import ServiceRoute.Proofs.Number.Addition
import ServiceRoute.Proofs.Store.CatalogRows
import ServiceRoute.Proofs.Store.StopUpsert
import ServiceRoute.Proofs.Selection.Window
import ServiceRoute.Proofs.Selection.Inclusion
import ServiceRoute.Proofs.Lifecycle.Times
import ServiceRoute.Proofs.Number.DecimalText
import ServiceRoute.Proofs.LegCache.FirstAnswers
import ServiceRoute.Proofs.Lifecycle.Interleaving
import ServiceRoute.Proofs.Selection.RowOrder
import ServiceRoute.Proofs.Store.CatalogLookup
import ServiceRoute.Proofs.RoutePlanner.PoolIsolation
import ServiceRoute.Proofs.RoutePlanner.CatalogStreets
import ServiceRoute.Proofs.Corridor.OrderedPairs
import ServiceRoute.Proofs.Relocation.Displacement
import ServiceRoute.Proofs.Relocation.Surveys
import ServiceRoute.Proofs.Relocation.LeastDelta
import ServiceRoute.Proofs.FinalRoute.ReusedLegs
import ServiceRoute.Proofs.Tour.CompleteTrips
import ServiceRoute.Proofs.Number.OrderedSums
import ServiceRoute.Proofs.Selection.InputOrder
import ServiceRoute.Proofs.Selection.ScoreOrder
import ServiceRoute.Proofs.Selection.Bumping
import ServiceRoute.Proofs.RoutePlanner.ExplicitStops
import ServiceRoute.Proofs.Lifecycle.OverrideHistory
import ServiceRoute.Proofs.RoutingServer.PlacedInputs
import ServiceRoute.Proofs.FinalRoute.FirstOffence
import ServiceRoute.Proofs.Store.BlockLookup
import ServiceRoute.Proofs.RoutingServer.Addresses
import ServiceRoute.Proofs.Tour.NearestTours
import ServiceRoute.Proofs.Corridor.Intervals
