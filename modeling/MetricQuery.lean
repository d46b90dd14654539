import MetricQuery.Catalog
import MetricQuery.CommandLine.Arguments
import MetricQuery.CommandLine.Run
import MetricQuery.Compiler
import MetricQuery.Config.File
import MetricQuery.Config.Settings
import MetricQuery.Config.Template
import MetricQuery.Correction.AppendedColumns
import MetricQuery.Correction.BucketOrder
import MetricQuery.Correction.Draft
import MetricQuery.Correction.Pipeline
import MetricQuery.Correction.RowLimit
import MetricQuery.Correction.Stage
import MetricQuery.Data.Binary64
import MetricQuery.Data.Json
import MetricQuery.Data.SortedMap
import MetricQuery.Data.Toml
import MetricQuery.Data.Toml.Document
import MetricQuery.Data.Toml.Scalar
import MetricQuery.Data.Value
import MetricQuery.Engine.Basic
import MetricQuery.Engine.DateDifference
import MetricQuery.Engine.Registry
import MetricQuery.Engine.Wording
import MetricQuery.Main
import MetricQuery.Model.InternalColumn
import MetricQuery.Model.Record
import MetricQuery.Model.Request
import MetricQuery.Model.Schema
import MetricQuery.Planning.Physical
import MetricQuery.Planning.SourceQuery
import MetricQuery.Proofs.Compiler.AggregationFlag
import MetricQuery.Proofs.Compiler.BoundNames
import MetricQuery.Proofs.Compiler.CatalogChanges
import MetricQuery.Proofs.Compiler.CatalogHistory
import MetricQuery.Proofs.Compiler.Compilation
import MetricQuery.Proofs.Compiler.DeclaredColumns
import MetricQuery.Proofs.Compiler.DerivedTable
import MetricQuery.Proofs.Compiler.DoubledColumns
import MetricQuery.Proofs.Compiler.EarlyWording
import MetricQuery.Proofs.Compiler.LogicalTables
import MetricQuery.Proofs.Compiler.Outcomes
import MetricQuery.Proofs.Compiler.PlannerWarnings
import MetricQuery.Proofs.Compiler.RequestText
import MetricQuery.Proofs.Compiler.ReservedColumns
import MetricQuery.Proofs.Compiler.RespelledRequests
import MetricQuery.Proofs.Compiler.RowBound
import MetricQuery.Proofs.Compiler.SourceColumns
import MetricQuery.Proofs.Compiler.TableReferences
import MetricQuery.Proofs.Compiler.UsingColumns
import MetricQuery.Proofs.Config.CatalogModels
import MetricQuery.Proofs.Config.CatalogText
import MetricQuery.Proofs.Config.Expansion
import MetricQuery.Proofs.Correction.AppendedReferences
import MetricQuery.Proofs.Correction.ColumnOrder
import MetricQuery.Proofs.Correction.Edits
import MetricQuery.Proofs.Correction.FailedStages
import MetricQuery.Proofs.Correction.FixedPoint
import MetricQuery.Proofs.Correction.HashTable
import MetricQuery.Proofs.Correction.KeptTables
import MetricQuery.Proofs.Correction.RewordedQuery
import MetricQuery.Proofs.Correction.ShownNames
import MetricQuery.Proofs.Correction.StageOrder
import MetricQuery.Proofs.Correction.StatementFold
import MetricQuery.Proofs.Correction.WordingAlone
import MetricQuery.Proofs.Data.JsonText
import MetricQuery.Proofs.Data.SortedMap
import MetricQuery.Proofs.Engine.Aliases
import MetricQuery.Proofs.Engine.Attachments
import MetricQuery.Proofs.Engine.DateFormula
import MetricQuery.Proofs.Engine.KeptNumbers
import MetricQuery.Proofs.Engine.KeptOrder
import MetricQuery.Proofs.Engine.KeptSights
import MetricQuery.Proofs.Engine.NormalForm
import MetricQuery.Proofs.Engine.Rewording
import MetricQuery.Proofs.Engine.Settled
import MetricQuery.Proofs.Engine.Words
import MetricQuery.Proofs.Model.Record
import MetricQuery.Proofs.Planning.Attachment
import MetricQuery.Proofs.Planning.ColumnSource
import MetricQuery.Proofs.Planning.Emission
import MetricQuery.Proofs.Planning.ForeignReferences
import MetricQuery.Proofs.Planning.Replacement
import MetricQuery.Proofs.Planning.SortNames
import MetricQuery.Proofs.Semantics.Ambiguity
import MetricQuery.Proofs.Semantics.Classification
import MetricQuery.Proofs.Semantics.ListedNames
import MetricQuery.Proofs.Semantics.Resolution
import MetricQuery.Proofs.Sql.Aggregation
import MetricQuery.Proofs.Sql.Clausewise
import MetricQuery.Proofs.Sql.Groupings
import MetricQuery.Proofs.Sql.Nodewise
import MetricQuery.Proofs.Sql.Operands
import MetricQuery.Proofs.Sql.Paths
import MetricQuery.Proofs.Sql.Relations
import MetricQuery.Proofs.Sql.RenamedCalls
import MetricQuery.Proofs.Sql.Renaming
import MetricQuery.Proofs.Sql.RenamingBack
import MetricQuery.Proofs.Sql.Respelling
import MetricQuery.Proofs.Sql.Sights
import MetricQuery.Proofs.Sql.Tree
import MetricQuery.Proofs.Sql.Walks
import MetricQuery.Proofs.Text.DistinctNames
import MetricQuery.Proofs.Text.LowerCase
import MetricQuery.Proofs.Text.Natural
import MetricQuery.Proofs.Text.WholeWords
import MetricQuery.Semantics.Classification
import MetricQuery.Semantics.DefaultMetric
import MetricQuery.Semantics.Resolution
import MetricQuery.Sql.Calls
import MetricQuery.Sql.Columns
import MetricQuery.Sql.FieldNames
import MetricQuery.Sql.Form.Clause
import MetricQuery.Sql.Form.Expr
import MetricQuery.Sql.Grammar.Administration
import MetricQuery.Sql.Grammar.Alteration
import MetricQuery.Sql.Grammar.Call
import MetricQuery.Sql.Grammar.Change
import MetricQuery.Sql.Grammar.ColumnOption
import MetricQuery.Sql.Grammar.DataType
import MetricQuery.Sql.Grammar.Definition
import MetricQuery.Sql.Grammar.Expr
import MetricQuery.Sql.Grammar.Inner
import MetricQuery.Sql.Grammar.Keyword
import MetricQuery.Sql.Grammar.Name
import MetricQuery.Sql.Grammar.Operator
import MetricQuery.Sql.Grammar.Parser
import MetricQuery.Sql.Grammar.Query
import MetricQuery.Sql.Grammar.Recognition
import MetricQuery.Sql.Grammar.RowChange
import MetricQuery.Sql.Grammar.RowPattern
import MetricQuery.Sql.Grammar.Select
import MetricQuery.Sql.Grammar.Session
import MetricQuery.Sql.Grammar.SpecialForm
import MetricQuery.Sql.Grammar.Statement
import MetricQuery.Sql.Grammar.Table
import MetricQuery.Sql.Grammar.TableDefinition
import MetricQuery.Sql.Phrase
import MetricQuery.Sql.Printer
import MetricQuery.Sql.Printer.Words
import MetricQuery.Sql.Query
import MetricQuery.Sql.Sources
import MetricQuery.Sql.Statement
import MetricQuery.Sql.SyntaxTree
import MetricQuery.Sql.TextStyle
import MetricQuery.Sql.Token
import MetricQuery.Sql.Token.Escape
import MetricQuery.Sql.Token.Lexer
import MetricQuery.Text.CaseTable
import MetricQuery.Text.CharClass
import MetricQuery.Text.CharTable
import MetricQuery.Text.Distinct
import MetricQuery.Text.Hexadecimal
import MetricQuery.Text.LetterCase
import MetricQuery.Text.Natural
import MetricQuery.Text.Quoted
import MetricQuery.Text.Units16
import MetricQuery.Text.WholeWord
import MetricQuery.Warning
