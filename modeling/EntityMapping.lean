import EntityMapping.Main
import EntityMapping.Proofs.Outcome
import EntityMapping.Proofs.Text.Splitting
import EntityMapping.Proofs.Plan.Acceptance
import EntityMapping.Proofs.Schema.Lookup
import EntityMapping.Proofs.Plan.Statements
import EntityMapping.Proofs.Naming.Spelling
import EntityMapping.Proofs.Naming.Joining
import EntityMapping.Proofs.Plan.Columns
import EntityMapping.Proofs.Naming.Suffix
import EntityMapping.Proofs.Plan.ForeignKeys
import EntityMapping.Proofs.Plan.Inflection
import EntityMapping.Proofs.Plan.Arrangement
import EntityMapping.Proofs.Decimal.Digits
import EntityMapping.Proofs.SourceText.Layout
import EntityMapping.Proofs.SourceText.Legible
import EntityMapping.Proofs.SourceText.Calls
import EntityMapping.Proofs.SourceText.Usings
import EntityMapping.Proofs.SourceText.Wrapping
import EntityMapping.Proofs.SourceText.Statements
import EntityMapping.Proofs.SourceText.ClassBody
import EntityMapping.Proofs.SourceText.Readback
import EntityMapping.Proofs.CommandLine.Products
import EntityMapping.Proofs.Plan.Selectors
import EntityMapping.Proofs.CommandLine.Hurdles
import EntityMapping.Proofs.Output.FileTree
import EntityMapping.Proofs.Output.Writing
import EntityMapping.Proofs.Output.Directories
import EntityMapping.Proofs.CommandLine.Delivery
import EntityMapping.Proofs.Plan.DefaultNames
import EntityMapping.Proofs.Unicode.CodePoints
import EntityMapping.Proofs.Unicode.Categories
import EntityMapping.Proofs.Naming.Legality
import EntityMapping.Proofs.Naming.Settled
import EntityMapping.Proofs.Naming.PascalCase
import EntityMapping.Proofs.Json.Written
import EntityMapping.Proofs.Document.Lexemes
import EntityMapping.Proofs.Document.Values
import EntityMapping.Proofs.Document.Records
import EntityMapping.Proofs.Schema.Roundtrip
import EntityMapping.Proofs.Plan.Closure
import EntityMapping.Proofs.Plan.Locality
import EntityMapping.Proofs.Plan.Reordering
import EntityMapping.Proofs.Plan.Renaming
import EntityMapping.Proofs.SourceText.Brackets
import EntityMapping.Proofs.SourceText.Writer
import EntityMapping.Proofs.SourceText.Nesting
import EntityMapping.Proofs.SourceText.NewLines
import EntityMapping.Proofs.Plan.RowVersions
import EntityMapping.Proofs.Json.Grammar
import EntityMapping.Proofs.Json.Sparse
import EntityMapping.Proofs.Document.Skipping
import EntityMapping.Proofs.Document.AnyValue
import EntityMapping.Proofs.Schema.Records
import EntityMapping.Proofs.Schema.Sparse
import EntityMapping.Proofs.Plan.Snapshots
import EntityMapping.Proofs.SourceText.Literals
import EntityMapping.Proofs.Text.Trimming
import EntityMapping.Proofs.Text.LetterCase
import EntityMapping.Proofs.Plan.DefaultValues
import EntityMapping.Proofs.Plan.Topics
import EntityMapping.Proofs.Plan.Fragments
import EntityMapping.Proofs.SourceText.Sections
import EntityMapping.Proofs.SourceText.Wording
import EntityMapping.Proofs.SourceText.Documentation
import EntityMapping.Proofs.SourceText.Conversion
import EntityMapping.Proofs.Plan.StoreTypes
import EntityMapping.Proofs.Schema.TypeNames
import EntityMapping.Proofs.SourceText.CanonicalUsings
import EntityMapping.Proofs.CommandLine.Selection
