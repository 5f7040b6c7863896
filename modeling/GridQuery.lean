import GridQuery.Main
import GridQuery.Proofs.RowMeaning
import GridQuery.Table.Change
import GridQuery.Table.Session
import GridQuery.Proofs.ChainGrammar
import GridQuery.Proofs.History
import GridQuery.Proofs.Numerals
import GridQuery.Proofs.Sql.Lexis
import GridQuery.Proofs.Sql.Atoms
import GridQuery.Proofs.Sql.Formula
import GridQuery.Proofs.Sql.Meaning
import GridQuery.Proofs.Sql.Restriction
import GridQuery.Proofs.SpecificationRoundTrip
import GridQuery.Proofs.ChainOrder
import GridQuery.Proofs.Narrowing
import GridQuery.Proofs.Sql.Outline
import GridQuery.Proofs.Sql.UnknownColumns
import GridQuery.Proofs.RowIdentity
import GridQuery.Proofs.SharedIds
import GridQuery.Proofs.RejectedConditions
import GridQuery.Proofs.Sql.Moments
import GridQuery.Proofs.Sql.Ranges
import GridQuery.Proofs.TableRoundTrip
import GridQuery.Proofs.Sql.References
import GridQuery.Proofs.FewerRows
import GridQuery.Proofs.FirstErrors
import GridQuery.Proofs.PartialUpdate
import GridQuery.Proofs.WritesById
import GridQuery.Proofs.Wildcards
import GridQuery.Proofs.IntegerComparison
import GridQuery.Proofs.ComparisonLaws
import GridQuery.Proofs.DeletedRows
import GridQuery.Proofs.TokenSpans
import GridQuery.Proofs.ViablePrefixes
import GridQuery.Proofs.NumbersByText
import GridQuery.Proofs.LongText
import GridQuery.Proofs.SurroundingBlanks
import GridQuery.Proofs.ShownTokens
import GridQuery.Proofs.ExpressibleConditions
import GridQuery.Proofs.Sql.CompilableClauses
import GridQuery.Proofs.Sql.Substrings
import GridQuery.Proofs.Sql.Days
import GridQuery.Proofs.Calendar.LaterDays
import GridQuery.Proofs.Calendar.DayCounts
import GridQuery.Proofs.Calendar.Edges
import GridQuery.Proofs.Calendar.ShortForm
import GridQuery.Proofs.Calendar.InternetForm
import GridQuery.Proofs.Calendar.Instants
import GridQuery.Proofs.ReadableRows
import GridQuery.Proofs.ReadableLongText
import GridQuery.Proofs.TableView
import GridQuery.Proofs.ColumnMetadata
