import GridPuzzle.Proofs.ValueSet
import GridPuzzle.Sample.Grid
import GridPuzzle.Source.Format
import GridPuzzle.Source.TestRun
import GridPuzzle.Survey.Arithmetic
import GridPuzzle.Survey.Grids
import GridPuzzle.Task.Loading
import GridPuzzle.Task.Score
import GridPuzzle.Value.Listing
import GridPuzzle.Proofs.Board
import GridPuzzle.Proofs.RegionGrowth
import GridPuzzle.Proofs.ObjectRegions
import GridPuzzle.Proofs.ObjectComponents
import GridPuzzle.Proofs.PatchSet
import GridPuzzle.Proofs.Painting
import GridPuzzle.Proofs.Decomposition
import GridPuzzle.Proofs.ColorClass
import GridPuzzle.Proofs.Enclosure
import GridPuzzle.Proofs.SolverScope
import GridPuzzle.Proofs.ScoreCount
import GridPuzzle.Proofs.Symmetry
import GridPuzzle.Proofs.PatchFigure
import GridPuzzle.Proofs.FlippedPatch
import GridPuzzle.Proofs.ObjectSymmetry
import GridPuzzle.Proofs.ShiftedPatch
import GridPuzzle.Proofs.Gravitation
import GridPuzzle.Proofs.PatchOutline
import GridPuzzle.Proofs.PatchTranslation
import GridPuzzle.Proofs.RectangularGrid
import GridPuzzle.Proofs.GridRecipe
import GridPuzzle.Proofs.ObjectFilter
import GridPuzzle.Proofs.Flooding
import GridPuzzle.Proofs.Landing
import GridPuzzle.Proofs.Occurrence
import GridPuzzle.Proofs.BlankRectangle
import GridPuzzle.Proofs.Spiral
import GridPuzzle.Proofs.Raising
import GridPuzzle.Proofs.FunctionBlock
import GridPuzzle.Proofs.FormatHistory
import GridPuzzle.Proofs.TaskLoading
import GridPuzzle.Proofs.TargetedWrite
import GridPuzzle.Proofs.PatchPeriod
import GridPuzzle.Proofs.GridPart
import GridPuzzle.Proofs.PatternExtension
import GridPuzzle.Proofs.MovedBack
import GridPuzzle.Proofs.Overlay
import GridPuzzle.Proofs.Scaling
import GridPuzzle.Proofs.EnlargedObject
import GridPuzzle.Proofs.GridSplit
import GridPuzzle.Proofs.GridHalf
import GridPuzzle.Proofs.PatchNormalForm
import GridPuzzle.Proofs.StraightLine
import GridPuzzle.Proofs.NestedRing
import GridPuzzle.Proofs.PatchDistance
import GridPuzzle.Proofs.FullBox
import GridPuzzle.Proofs.LoneCell
import GridPuzzle.Proofs.UniformLine
import GridPuzzle.Proofs.SpannedLine
import GridPuzzle.Proofs.SortedColumn
import GridPuzzle.Proofs.MirroredMaximum
import GridPuzzle.Proofs.DistinctLine
import GridPuzzle.Proofs.VisitOrder
import GridPuzzle.Proofs.ColoredFrame
import GridPuzzle.Proofs.JoinedGrid
import GridPuzzle.Proofs.BuiltFunction
import GridPuzzle.Proofs.TiledGrid
import GridPuzzle.Proofs.FirstOccurrence
import GridPuzzle.Proofs.ColorCount
import GridPuzzle.Proofs.LazySearch
import GridPuzzle.Proofs.BestResult
import GridPuzzle.Proofs.DefinedNames
import GridPuzzle.Proofs.SearchRounds
import GridPuzzle.Proofs.BlobSample
