import SceneBoard.Proofs.WellFormed
import SceneBoard.Proofs.Orphans
import SceneBoard.Proofs.Idempotence
import SceneBoard.Proofs.ManualPositions
import SceneBoard.Proofs.Bookkeeping
import SceneBoard.Proofs.Pruning
import SceneBoard.Proofs.CanvasRange
import SceneBoard.Proofs.ClosedImports
import SceneBoard.Proofs.Labels
import SceneBoard.Proofs.MaximalBinding
import SceneBoard.Proofs.NumberedIds
import SceneBoard.Proofs.Separation
import SceneBoard.Proofs.SpacedRow
import SceneBoard.Proofs.Predecessors
import SceneBoard.Proofs.AtomicRuns
import SceneBoard.Proofs.SourceScan
import SceneBoard.Proofs.CleanReports
import SceneBoard.Proofs.MissingScenes
import SceneBoard.Proofs.Overflow
import SceneBoard.Proofs.GenericClauses
import SceneBoard.Proofs.PreviewSizes
import SceneBoard.Proofs.RelativePaths
import SceneBoard.Proofs.DiscoveryOrder
import SceneBoard.Proofs.MapOrder
import SceneBoard.Proofs.PruningSwitch
import SceneBoard.Proofs.GroupTokens
import SceneBoard.Main
import SceneBoard.Cli
import SceneBoard.Files.Relative
import SceneBoard.Files.Store
import SceneBoard.Source.Scan
import SceneBoard.Toml.Document
import SceneBoard.Storyboard.Checks
import SceneBoard.Generation
import SceneBoard.Storyboard.Printer
import SceneBoard.Plan
import SceneBoard.Storyboard.Parser
import SceneBoard.Source.Declaration
import SceneBoard.Source.Selection
import SceneBoard.Source.SizeInference
import SceneBoard.Component
import SceneBoard.Scene
import SceneBoard.Text.Pattern
import SceneBoard.Text.Pattern.Ways
import SceneBoard.Text.Search
import SceneBoard.Text.Blank
import SceneBoard.Text.Lowercase
import SceneBoard.Text.Printable
import SceneBoard.Text.Word
