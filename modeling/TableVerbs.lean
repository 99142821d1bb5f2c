import TableVerbs.Csv
import TableVerbs.Session
import TableVerbs.Proofs.InPlace
import TableVerbs.Proofs.ReadingSound
import TableVerbs.Proofs.ReadingComplete
import TableVerbs.Proofs.RowLocalExpr
import TableVerbs.Proofs.WellFormedRuns
import TableVerbs.Proofs.CellOrder
import TableVerbs.Proofs.ExactArithmetic
import TableVerbs.Proofs.IntegerExpressions
import TableVerbs.Proofs.Pipeline
import TableVerbs.Proofs.Grouping
import TableVerbs.Proofs.GroupOrder
import TableVerbs.Proofs.StackValues
import TableVerbs.Proofs.PickedTables
import TableVerbs.Proofs.GroupedRows
import TableVerbs.Proofs.SummaryRows
import TableVerbs.Proofs.MergedRows
import TableVerbs.Proofs.Summaries
import TableVerbs.Proofs.GroupNumbering
import TableVerbs.Proofs.DirectLabels
import TableVerbs.Proofs.TableHistory
import TableVerbs.Proofs.Spelling
import TableVerbs.Proofs.FusedQueries
import TableVerbs.Proofs.TableFiles
import TableVerbs.Proofs.StableSorting
import TableVerbs.Proofs.RepeatedRows
import TableVerbs.Proofs.StackedTables
import TableVerbs.Proofs.FilledKeys
import TableVerbs.Proofs.Assignment
import TableVerbs.Proofs.ComputedFirst
import TableVerbs.Proofs.SelectedColumns
import TableVerbs.Proofs.Renaming
import TableVerbs.Proofs.NegatedQueries
import TableVerbs.Proofs.SampledRows
import TableVerbs.Proofs.LayeredScopes
import TableVerbs.Proofs.TypesWithoutRows
import TableVerbs.Proofs.RepeatedCuts
import TableVerbs.Proofs.Comparisons
import TableVerbs.Proofs.RunningSums
import TableVerbs.Proofs.LawfulCells
import TableVerbs.Proofs.FloorDivision
import TableVerbs.Proofs.BuiltTables
import TableVerbs.Proofs.Schedules
