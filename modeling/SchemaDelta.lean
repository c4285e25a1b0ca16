import SchemaDelta.Text.Blank
import SchemaDelta.Text.Case
import SchemaDelta.Text.CaseTable
import SchemaDelta.Text.Digit
import SchemaDelta.Text.Interval
import SchemaDelta.Text.Lines
import SchemaDelta.Text.PrintableTable
import SchemaDelta.Text.Quoted
import SchemaDelta.Text.Word
import SchemaDelta.Text.WordTable
import SchemaDelta.Keyed
import SchemaDelta.Decimal.Binary64
import SchemaDelta.Decimal.Style
import SchemaDelta.Json.Basic
import SchemaDelta.Json.Display
import SchemaDelta.Json.Fault
import SchemaDelta.Json.Reader
import SchemaDelta.Json.Writer
import SchemaDelta.Schema.Enumeration
import SchemaDelta.Schema.Fields
import SchemaDelta.Schema.ObjectClass
import SchemaDelta.Schema.Typing
import SchemaDelta.Value.Basic
import SchemaDelta.Value.Display
import SchemaDelta.Value.Kind
import SchemaDelta.Value.Order
import SchemaDelta.Snapshot.Document
import SchemaDelta.Snapshot.Failure
import SchemaDelta.Ddl.Access
import SchemaDelta.Ddl.ColumnOrder
import SchemaDelta.Ddl.DialectChoice
import SchemaDelta.Ddl.Failure
import SchemaDelta.Ddl.FullScript
import SchemaDelta.Ddl.Grouping
import SchemaDelta.Ddl.Identifier
import SchemaDelta.Ddl.Inheritance
import SchemaDelta.Ddl.Options
import SchemaDelta.Ddl.Scripter
import SchemaDelta.Ddl.Scripting
import SchemaDelta.Ddl.Statements
import SchemaDelta.Ddl.Table
import SchemaDelta.Ddl.TableChange
import SchemaDelta.Ddl.Variant
import SchemaDelta.Ddl.MicrosoftSql.Column
import SchemaDelta.Ddl.MicrosoftSql.Header
import SchemaDelta.Ddl.MicrosoftSql.Statements
import SchemaDelta.Ddl.MySql.Column
import SchemaDelta.Ddl.MySql.Statements
import SchemaDelta.Ddl.PostgreSql.Column
import SchemaDelta.Ddl.PostgreSql.Signature
import SchemaDelta.Ddl.PostgreSql.Statements
import SchemaDelta.Comparison.Basic
import SchemaDelta.Comparison.Difference
import SchemaDelta.Comparison.Pairing
import SchemaDelta.Comparison.Sameness
import SchemaDelta.Migration.Action
import SchemaDelta.Migration.Generator
import SchemaDelta.Migration.Phase
import SchemaDelta.Migration.Plan
import SchemaDelta.LineDiff.Alignment
import SchemaDelta.LineDiff.Objects
import SchemaDelta.LineDiff.SideBySide
import SchemaDelta.LineDiff.Unified
import SchemaDelta.Files.Disk
import SchemaDelta.Files.FileSystem
import SchemaDelta.Files.Path
import SchemaDelta.Report.Basic
import SchemaDelta.Report.Csv
import SchemaDelta.Report.Html
import SchemaDelta.Settings.Basic
import SchemaDelta.Settings.Log
import SchemaDelta.Settings.Store
import SchemaDelta.CommandLine.Arguments
import SchemaDelta.CommandLine.Command
import SchemaDelta.CommandLine.Run
import SchemaDelta.CommandLine.Token
import SchemaDelta.Proofs.Attempt
import SchemaDelta.Proofs.Comparison.Alikeness
import SchemaDelta.Proofs.Comparison.Coverage
import SchemaDelta.Proofs.Comparison.CreateScripts
import SchemaDelta.Proofs.Comparison.Names
import SchemaDelta.Proofs.Comparison.OuterJoin
import SchemaDelta.Proofs.Comparison.Pairing
import SchemaDelta.Proofs.Comparison.Sameness
import SchemaDelta.Proofs.Comparison.Soundness
import SchemaDelta.Proofs.Comparison.Symmetry
import SchemaDelta.Proofs.Ddl.Alteration
import SchemaDelta.Proofs.Ddl.ColumnAlignment
import SchemaDelta.Proofs.Ddl.ColumnDefinition
import SchemaDelta.Proofs.Ddl.ColumnOrder
import SchemaDelta.Proofs.Ddl.ColumnRecreation
import SchemaDelta.Proofs.Ddl.ColumnSpelling
import SchemaDelta.Proofs.Ddl.ColumnStep
import SchemaDelta.Proofs.Ddl.Convergence
import SchemaDelta.Proofs.Ddl.CreationOrder
import SchemaDelta.Proofs.Ddl.Dependents
import SchemaDelta.Proofs.Ddl.DistinctRows
import SchemaDelta.Proofs.Ddl.ForeignKey
import SchemaDelta.Proofs.Ddl.ForeignKeyExchange
import SchemaDelta.Proofs.Ddl.ForeignKeyText
import SchemaDelta.Proofs.Ddl.GroupChange
import SchemaDelta.Proofs.Ddl.GroupOrder
import SchemaDelta.Proofs.Ddl.GroupPartition
import SchemaDelta.Proofs.Ddl.Grouping
import SchemaDelta.Proofs.Ddl.HeaderWords
import SchemaDelta.Proofs.Ddl.Identifier
import SchemaDelta.Proofs.Ddl.InboundForeignKeys
import SchemaDelta.Proofs.Ddl.Independence
import SchemaDelta.Proofs.Ddl.IndexStatement
import SchemaDelta.Proofs.Ddl.Inheritance
import SchemaDelta.Proofs.Ddl.KeyRebuild
import SchemaDelta.Proofs.Ddl.Lineage
import SchemaDelta.Proofs.Ddl.ModuleHeader
import SchemaDelta.Proofs.Ddl.NeedlessRebuild
import SchemaDelta.Proofs.Ddl.QualifiedName
import SchemaDelta.Proofs.Ddl.Rearrangement
import SchemaDelta.Proofs.Ddl.Scripting
import SchemaDelta.Proofs.Ddl.ScriptingFailure
import SchemaDelta.Proofs.Ddl.SilentAlteration
import SchemaDelta.Proofs.Ddl.StatementFailure
import SchemaDelta.Proofs.Ddl.Statements
import SchemaDelta.Proofs.Ddl.Table
import SchemaDelta.Proofs.Ddl.TableChange
import SchemaDelta.Proofs.Ddl.TypeMembers
import SchemaDelta.Proofs.Ddl.ViewIndexes
import SchemaDelta.Proofs.Decimal.Rounding
import SchemaDelta.Proofs.Decimal.Shortest
import SchemaDelta.Proofs.Decimal.Style
import SchemaDelta.Proofs.Json.Numbers
import SchemaDelta.Proofs.Json.Numerals
import SchemaDelta.Proofs.Json.Quoting
import SchemaDelta.Proofs.Json.Readable
import SchemaDelta.Proofs.Json.RoundTrip
import SchemaDelta.Proofs.Keyed
import SchemaDelta.Proofs.LineDiff.Alignment
import SchemaDelta.Proofs.LineDiff.IgnoredOrder
import SchemaDelta.Proofs.LineDiff.RowLines
import SchemaDelta.Proofs.Migration.AlterationCompleteness
import SchemaDelta.Proofs.Migration.AlterationSafety
import SchemaDelta.Proofs.Migration.Consistency
import SchemaDelta.Proofs.Migration.Contents
import SchemaDelta.Proofs.Migration.DatabaseNames
import SchemaDelta.Proofs.Migration.Deployment
import SchemaDelta.Proofs.Migration.DropAddress
import SchemaDelta.Proofs.Migration.DropSafety
import SchemaDelta.Proofs.Migration.ForeignKeyAddition
import SchemaDelta.Proofs.Migration.ForeignKeyBalance
import SchemaDelta.Proofs.Migration.ForeignKeyGrouping
import SchemaDelta.Proofs.Migration.ForeignKeyName
import SchemaDelta.Proofs.Migration.ForeignKeyRows
import SchemaDelta.Proofs.Migration.ForeignKeyStatement
import SchemaDelta.Proofs.Migration.ForeignKeyUniqueness
import SchemaDelta.Proofs.Migration.FreshDatabase
import SchemaDelta.Proofs.Migration.FreshPlan
import SchemaDelta.Proofs.Migration.FullScript
import SchemaDelta.Proofs.Migration.FullScriptOrder
import SchemaDelta.Proofs.Migration.FunctionArguments
import SchemaDelta.Proofs.Migration.FunctionReplacement
import SchemaDelta.Proofs.Migration.FunctionSignature
import SchemaDelta.Proofs.Migration.InheritanceOrder
import SchemaDelta.Proofs.Migration.KeyDrop
import SchemaDelta.Proofs.Migration.Lines
import SchemaDelta.Proofs.Migration.ModuleBatches
import SchemaDelta.Proofs.Migration.ObjectStatement
import SchemaDelta.Proofs.Migration.Parts
import SchemaDelta.Proofs.Migration.Planning
import SchemaDelta.Proofs.Migration.QuietRun
import SchemaDelta.Proofs.Migration.Rendering
import SchemaDelta.Proofs.Migration.Reuse
import SchemaDelta.Proofs.Migration.TableLists
import SchemaDelta.Proofs.Migration.TypeOrder
import SchemaDelta.Proofs.Settings.Defaults
import SchemaDelta.Proofs.Settings.Reloading
import SchemaDelta.Proofs.Settings.Values
import SchemaDelta.Proofs.Snapshot.Keeping
import SchemaDelta.Proofs.Snapshot.Rejection
import SchemaDelta.Proofs.Snapshot.Restored
import SchemaDelta.Proofs.Snapshot.Restoring
import SchemaDelta.Proofs.Snapshot.RoundTrip
import SchemaDelta.Proofs.Snapshot.Storing
import SchemaDelta.Proofs.Text.Batches
import SchemaDelta.Proofs.Text.CaseFolding
import SchemaDelta.Proofs.Text.LineEnds
import SchemaDelta.Proofs.Value.Equality
import SchemaDelta.Proofs.Value.Filled
import SchemaDelta.Proofs.Value.Ranking
import SchemaDelta.Proofs.Value.Reading
import SchemaDelta.Proofs.Value.Rearrangement
import SchemaDelta.Proofs.Value.Replacing
import SchemaDelta.Proofs.Value.Sorting
import SchemaDelta.Main
