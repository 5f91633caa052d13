import GraphQuery.Codec.Condition
import GraphQuery.Codec.Node
import GraphQuery.Codec.Parts
import GraphQuery.Codec.Projection
import GraphQuery.Codec.Traversal
import GraphQuery.Condition
import GraphQuery.Cypher.Aggregate
import GraphQuery.Cypher.Column
import GraphQuery.Cypher.Mutation
import GraphQuery.Cypher.Pattern
import GraphQuery.Cypher.Predicate
import GraphQuery.Cypher.Reading
import GraphQuery.Cypher.Select
import GraphQuery.Decimal.Binary64
import GraphQuery.Decimal.Numeral
import GraphQuery.Decimal.Shortest
import GraphQuery.Dialect
import GraphQuery.Error
import GraphQuery.Identifier
import GraphQuery.Literal
import GraphQuery.Node
import GraphQuery.Notice
import GraphQuery.Operator
import GraphQuery.Parameter.Buckets
import GraphQuery.Parameter.Name
import GraphQuery.Projection
import GraphQuery.Proofs.Codec.Condition
import GraphQuery.Proofs.Codec.Form
import GraphQuery.Proofs.Codec.Node
import GraphQuery.Proofs.Codec.Traversal
import GraphQuery.Proofs.Erasure.Filter
import GraphQuery.Proofs.Erasure.Query
import GraphQuery.Proofs.Erasure.Script
import GraphQuery.Proofs.Erasure.Session
import GraphQuery.Proofs.Erasure.Statement
import GraphQuery.Proofs.Identifier.Accessor
import GraphQuery.Proofs.Identifier.Alias
import GraphQuery.Proofs.Identifier.Labels
import GraphQuery.Proofs.Identifier.Reading
import GraphQuery.Proofs.Identifier.Spelling
import GraphQuery.Proofs.Literal.Quotation
import GraphQuery.Proofs.Literal.Reading
import GraphQuery.Proofs.Parameter.Allocator
import GraphQuery.Proofs.Parameter.Appended
import GraphQuery.Proofs.Parameter.Extends
import GraphQuery.Proofs.Parameter.Flattened
import GraphQuery.Proofs.Parameter.Fresh
import GraphQuery.Proofs.Parameter.Kept
import GraphQuery.Proofs.Parameter.Ledger
import GraphQuery.Proofs.Parameter.Numbered
import GraphQuery.Proofs.Parameter.Positional
import GraphQuery.Proofs.Parameter.Rows
import GraphQuery.Proofs.Parameter.Scanned
import GraphQuery.Proofs.Parameter.Search
import GraphQuery.Proofs.Parameter.Splices
import GraphQuery.Proofs.Parameter.Stored
import GraphQuery.Proofs.Parameter.Written
import GraphQuery.Proofs.Predicate.Legible
import GraphQuery.Proofs.Predicate.Meaning
import GraphQuery.Proofs.Predicate.Normal
import GraphQuery.Proofs.Predicate.Reading
import GraphQuery.Proofs.Query.Legible
import GraphQuery.Proofs.Record.Merge
import GraphQuery.Proofs.Record.Sorted
import GraphQuery.Proofs.Recorder.Queue
import GraphQuery.Proofs.Script.Aliased
import GraphQuery.Proofs.Script.Call
import GraphQuery.Proofs.Script.Callback
import GraphQuery.Proofs.Script.Carried
import GraphQuery.Proofs.Script.Change
import GraphQuery.Proofs.Script.Copied
import GraphQuery.Proofs.Script.Created
import GraphQuery.Proofs.Script.Elementary
import GraphQuery.Proofs.Script.Execution
import GraphQuery.Proofs.Script.Failure
import GraphQuery.Proofs.Script.Grouping
import GraphQuery.Proofs.Script.Heeded
import GraphQuery.Proofs.Script.Inlined
import GraphQuery.Proofs.Script.Inserted
import GraphQuery.Proofs.Script.Labelled
import GraphQuery.Proofs.Script.Matched
import GraphQuery.Proofs.Script.Normal
import GraphQuery.Proofs.Script.Plucked
import GraphQuery.Proofs.Script.Remembered
import GraphQuery.Proofs.Script.Reordered
import GraphQuery.Proofs.Script.Run
import GraphQuery.Proofs.Script.Twin
import GraphQuery.Proofs.Script.Update
import GraphQuery.Proofs.Script.Uses
import GraphQuery.Proofs.Session.Apply
import GraphQuery.Proofs.Session.Heeded
import GraphQuery.Proofs.Session.Sending
import GraphQuery.Proofs.Template.Asked
import GraphQuery.Proofs.Template.Legible
import GraphQuery.Proofs.Text.Dollarless
import GraphQuery.Proofs.Text.Lower
import GraphQuery.Query
import GraphQuery.Record
import GraphQuery.Recorder
import GraphQuery.ResultSet
import GraphQuery.Script
import GraphQuery.Session.Basic
import GraphQuery.Session.Execute
import GraphQuery.Session.Filter
import GraphQuery.Session.Traverse
import GraphQuery.Session.Writing
import GraphQuery.Settings.Basic
import GraphQuery.Settings.Source
import GraphQuery.Settings.Validation
import GraphQuery.Template
import GraphQuery.Text.Alphanumeric
import GraphQuery.Text.Blank
import GraphQuery.Text.Cased
import GraphQuery.Text.Lower
import GraphQuery.Text.Numeric
import GraphQuery.Text.Upper
import GraphQuery.Text.Visible
import GraphQuery.Traversal
import GraphQuery.Value.Basic
import GraphQuery.Value.Json
import GraphQuery.Yaml.Block
import GraphQuery.Yaml.Cursor
import GraphQuery.Yaml.Document
import GraphQuery.Yaml.Escape
import GraphQuery.Yaml.Line
import GraphQuery.Yaml.Node
import GraphQuery.Yaml.Plain
import GraphQuery.Yaml.Quoted
import GraphQuery.Yaml.Tag
import GraphQuery.Yaml.Token
import GraphQuery.Yaml.Token.Lexer
