import DocQuery.Text.Alphanumeric
import DocQuery.Text.Backspace
import DocQuery.Text.Blank
import DocQuery.Text.Cluster
import DocQuery.Text.Cluster.Kind
import DocQuery.Text.Digit
import DocQuery.Text.Escaped
import DocQuery.Text.Letters
import DocQuery.Text.Lines
import DocQuery.Text.Quote
import DocQuery.Text.Runs
import DocQuery.Text.Unprintable
import DocQuery.Number.Binary64
import DocQuery.Number.Decimal
import DocQuery.Number.Numeral
import DocQuery.Number.Word
import DocQuery.Time.Calendar
import DocQuery.Time.Instant
import DocQuery.Time.Stamp
import DocQuery.Time.Zone
import DocQuery.Time.Zone.Names
import DocQuery.Json.Basic
import DocQuery.Json.Fields
import DocQuery.Json.Numeral
import DocQuery.Json.Reader
import DocQuery.Json.Writer
import DocQuery.Query.Clauses
import DocQuery.Query.Condition
import DocQuery.Query.Error
import DocQuery.Query.FieldName
import DocQuery.Query.Literal
import DocQuery.Query.Operator
import DocQuery.Query.Plan
import DocQuery.Query.Predicate
import DocQuery.Query.SelectItem
import DocQuery.Query.Token
import DocQuery.Store.Collections
import DocQuery.Store.Comparison
import DocQuery.Store.Dataset
import DocQuery.Store.Document
import DocQuery.Store.Path
import DocQuery.Store.Query
import DocQuery.Store.SortedMap
import DocQuery.Session.Executor
import DocQuery.Session.Request
import DocQuery.Session.Row
import DocQuery.Shell.Basic
import DocQuery.Shell.Command
import DocQuery.Shell.Display
import DocQuery.Config.Basic
import DocQuery.Config.Environment
import DocQuery.Config.Environment.Entry
import DocQuery.Config.Toml
import DocQuery.Program.Arguments
import DocQuery.Program.Basic
import DocQuery.Program.Error
import DocQuery.Program.Surroundings
import DocQuery.Program.Transcript
import DocQuery.CommandLine
import DocQuery.Proofs.Text.Blanks
import DocQuery.Proofs.Text.Bytes
import DocQuery.Proofs.Text.Digits
import DocQuery.Proofs.Text.Ends
import DocQuery.Proofs.Text.Escaped
import DocQuery.Proofs.Text.Items
import DocQuery.Proofs.Text.Letters
import DocQuery.Proofs.Text.Lines
import DocQuery.Proofs.Text.Scanning
import DocQuery.Proofs.Text.Spacing
import DocQuery.Proofs.Number.Nearest
import DocQuery.Proofs.Number.Quotients
import DocQuery.Proofs.Number.Reading
import DocQuery.Proofs.Number.RoundTrip
import DocQuery.Proofs.Number.Rounding
import DocQuery.Proofs.Number.Shortest
import DocQuery.Proofs.Number.Spellings
import DocQuery.Proofs.Number.Texts
import DocQuery.Proofs.Number.Values
import DocQuery.Proofs.Time.Calendar
import DocQuery.Proofs.Time.Civil
import DocQuery.Proofs.Time.Numerals
import DocQuery.Proofs.Time.Shapes
import DocQuery.Proofs.Time.Spelling
import DocQuery.Proofs.Time.Texts
import DocQuery.Proofs.Json.Compact
import DocQuery.Proofs.Json.Fields
import DocQuery.Proofs.Json.Removal
import DocQuery.Proofs.Query.Atoms
import DocQuery.Proofs.Query.Brackets
import DocQuery.Proofs.Query.ByteSearch
import DocQuery.Proofs.Query.Casing
import DocQuery.Proofs.Query.Chain
import DocQuery.Proofs.Query.Clauses
import DocQuery.Proofs.Query.Conditions
import DocQuery.Proofs.Query.Cuts
import DocQuery.Proofs.Query.FieldTokens
import DocQuery.Proofs.Query.Filters
import DocQuery.Proofs.Query.Glued
import DocQuery.Proofs.Query.Grammar
import DocQuery.Proofs.Query.Identity
import DocQuery.Proofs.Query.Keywords
import DocQuery.Proofs.Query.Layout
import DocQuery.Proofs.Query.Limits
import DocQuery.Proofs.Query.Listing
import DocQuery.Proofs.Query.LiteralKinds
import DocQuery.Proofs.Query.LiteralTexts
import DocQuery.Proofs.Query.Lookup
import DocQuery.Proofs.Query.OperatorWords
import DocQuery.Proofs.Query.Ordered
import DocQuery.Proofs.Query.Partition
import DocQuery.Proofs.Query.Parts
import DocQuery.Proofs.Query.Quiet
import DocQuery.Proofs.Query.QuotedContents
import DocQuery.Proofs.Query.QuotedValues
import DocQuery.Proofs.Query.Reading
import DocQuery.Proofs.Query.Replacement
import DocQuery.Proofs.Query.RoundTrip
import DocQuery.Proofs.Query.SelectLists
import DocQuery.Proofs.Query.SelectSpacing
import DocQuery.Proofs.Query.Selections
import DocQuery.Proofs.Query.Spacing
import DocQuery.Proofs.Query.TokenTexts
import DocQuery.Proofs.Query.Tokens
import DocQuery.Proofs.Query.Values
import DocQuery.Proofs.Query.WellFormed
import DocQuery.Proofs.Query.Written
import DocQuery.Proofs.Store.Arrays
import DocQuery.Proofs.Store.Bases
import DocQuery.Proofs.Store.CollectionPaths
import DocQuery.Proofs.Store.Comparability
import DocQuery.Proofs.Store.Complements
import DocQuery.Proofs.Store.Consistency
import DocQuery.Proofs.Store.Dataset
import DocQuery.Proofs.Store.Groups
import DocQuery.Proofs.Store.History
import DocQuery.Proofs.Store.IdentityOrder
import DocQuery.Proofs.Store.Integers
import DocQuery.Proofs.Store.LiteralOrder
import DocQuery.Proofs.Store.Order
import DocQuery.Proofs.Store.OwnForm
import DocQuery.Proofs.Store.Paging
import DocQuery.Proofs.Store.Path
import DocQuery.Proofs.Store.Scopes
import DocQuery.Proofs.Store.SortedMap
import DocQuery.Proofs.Store.Stamps
import DocQuery.Proofs.Store.TopN
import DocQuery.Proofs.Store.Writes
import DocQuery.Proofs.Session.Columns
import DocQuery.Proofs.Session.Complements
import DocQuery.Proofs.Session.Conditions
import DocQuery.Proofs.Session.Counting
import DocQuery.Proofs.Session.Execution
import DocQuery.Proofs.Session.Explained
import DocQuery.Proofs.Session.Forms
import DocQuery.Proofs.Session.Labels
import DocQuery.Proofs.Session.Listing
import DocQuery.Proofs.Session.Lookup
import DocQuery.Proofs.Session.Ordering
import DocQuery.Proofs.Session.Projection
import DocQuery.Proofs.Session.Rows
import DocQuery.Proofs.Session.Translation
import DocQuery.Proofs.Shell.Alignment
import DocQuery.Proofs.Shell.BasePath
import DocQuery.Proofs.Shell.Memory
