import Soma.Jobs.Fencing
import Soma.Jobs.Recovery
import Soma.Jobs.Coalescing
import Soma.Foundation.RestoreSafety
import Soma.Runtime.LifeCycle
import Soma.Migrations.CrashConsistency
import Soma.Reference.Claims
import Soma.Tickets.BranchCustomers
import Soma.Imports.Stranding
import Soma.ObjectivesTasks.SourceDecisions
import Soma.ObjectivesTasks.Progress
import Soma.Tickets.SrSourceHistory
import Soma.Tickets.RfcArchiveHistory
import Soma.Tickets.RfcTerminalEpochs
import Soma.ObjectivesTasks.RegroupHistory
import Soma.ObjectivesTasks.ObjectiveReview
import Soma.Imports.DurationField
import Soma.Imports.LogicalReordering
import Soma.Imports.XlsxScreening
import Soma.Inventory.NeedRuns
import Soma.ObjectivesTasks.RegroupClearance
import Soma.Tickets.TerminalEndpoint
import Soma.Tickets.RfcArchiveStreams
import Soma.ProductLineSla.CohortKeyCodec
import Soma.ProductLineSla.MonthPlacement
import Soma.ObjectivesTasks.RetryPaths
import Soma.ObjectivesTasks.ActivityLineages
import Soma.Inventory.ConsequenceRuns
import Soma.Inventory.HistoryPaging
import Soma.Inventory.RmaFingerprints
import Soma.Inventory.StockPaging
import Soma.Imports.SrReappearance
import Soma.Imports.SrDisappearance
import Soma.ProductLineSla.ClassificationHistory
import Soma.Inventory.ReferenceDependencies
import Soma.Theory.Forest
import Soma.Tickets.HierarchyForest
import Soma.ObjectivesTasks.ReviewQueue
